import GpuScript.Document.Command
import GpuScript.Document.Raster
import GpuScript.Document.Text
import GpuScript.Sampler.Spelling
import GpuScript.Script.Basic

/-! Descriptions of whole scripts, entity by entity in the order of their numbers, and inventories:
a script as a flat list of entries with paths, down to the fields of each entity. What an operation
does to a script shows in the entries that change. -/
namespace GpuScript.Document

def ofSampler (sampler : Sampler) : Document :=
  .record [("name", .text sampler.name), ("mag_filter", .text sampler.magFilter.label),
    ("min_filter", .text sampler.minFilter.label),
    ("mipmap_mode", .text sampler.mipmapMode.label),
    ("address_mode_u", .text sampler.addressModeU.label),
    ("address_mode_v", .text sampler.addressModeV.label),
    ("address_mode_w", .text sampler.addressModeW.label),
    ("border_color", .text sampler.borderColor.label), ("min_lod", .single sampler.minLod),
    ("max_lod", .single sampler.maxLod), ("normalized_coords", .truth sampler.normalizedCoords),
    ("compare_enable", .truth sampler.compareEnable), ("compare_op", .text sampler.compareOp.label)]

/-- The descriptions of the entities of a script, by kind. -/
def entityLists (describeState : RasterState → Document) (script : Script) :
    List (String × List Document) :=
  [("pipelines", script.pipelines.store.toList.map (ofPipeline describeState)),
    ("shaders", script.shaders.store.toList.map ofShader),
    ("buffers", script.buffers.store.toList.map ofBuffer),
    ("samplers", script.samplers.store.toList.map ofSampler),
    ("blases", script.bottomLevels.store.toList.map ofBottomLevel),
    ("tlases", script.topLevels.store.toList.map ofTopLevel)]

/-- The descriptions of what a script asks for and records. -/
def scriptFields (describeState : RasterState → Document) (script : Script) :
    List (String × Document) :=
  [("required_features", listOf .text script.requiredFeatures),
    ("required_device_extensions", listOf .text script.requiredDeviceExtensions),
    ("required_instance_extensions", listOf .text script.requiredInstanceExtensions),
    ("spv_env", .text script.spirvEnvironment), ("fence_timeout_ms", .count script.fenceTimeout),
    ("commands", .list (ofCommands describeState script.commands))]

def ofScript (describeState : RasterState → Document) (script : Script) : Document :=
  .record ((entityLists describeState script).map (fun kind => (kind.1, .list kind.2)) ++
    scriptFields describeState script)

def ofShaderJob (job : Script.ShaderJob) : Document :=
  .record [("format", .text job.format.label), ("shader_type", .text job.stage.label),
    ("name", .text job.name), ("source", .text job.source),
    ("optimizations", listOf .text job.optimizations), ("target_env", .text job.targetEnv),
    ("data", listOf .count job.words)]

/-- Bytes as pairs of hexadecimal digits. -/
def ofBytes (bytes : Array UInt8) : Document :=
  .text (String.join (bytes.toList.map fun byte => hexadecimal 2 byte.toNat))

/-- The entries of items that are described whole. -/
def itemEntries {Item : Type} (kind : String) (describe : Item → Document) (store : Store Item) :
    List (String × Document) :=
  store.toList.zipIdx.map fun entry => (s!"{kind}/{entry.2}", describe entry.1)

/-- The entries of the fields of entities. -/
def fieldEntries (kind : String) (entities : List Document) : List (String × Document) :=
  entities.zipIdx.flatMap fun entity =>
    entity.1.fields.map fun field => (s!"{kind}/{entity.2}/{field.1}", field.2)

/-- The entries of a script; the bytes of a buffer count among its fields. -/
def inventory (script : Script) : List (String × Document) :=
  (entityLists ofRasterChanges script).flatMap (fun kind => fieldEntries kind.1 kind.2) ++
    fieldEntries "buffers" (script.buffers.store.toList.map fun buffer =>
      .record [("bytes", ofBytes buffer.bytes)]) ++
    itemEntries "formats" ofFormat script.formats ++ itemEntries "types" ofType script.types ++
    scriptFields ofRasterChanges script

end GpuScript.Document
