import GpuScript.Proofs.Buffer.Layers
import GpuScript.Proofs.Pipeline.Storing

namespace GpuScript

/-- The byte of a word at a place; the lowest byte comes first. -/
def wordByte (word place : Nat) : UInt8 := UInt8.ofNat (word / 256 ^ place)

theorem wordByte_zero (place : Nat) : wordByte 0 place = 0 := by
  rw [wordByte, Nat.zero_div]
  rfl

theorem wordByte_of_lt {word : Nat} (small : word < 256) (place : Nat) :
    wordByte word place = if place = 0 then UInt8.ofNat word else 0 := by
  by_cases first : place = 0
  · rw [if_pos first, wordByte, first, Nat.pow_zero, Nat.div_one]
  · have above : 256 ^ 1 ≤ 256 ^ place :=
      Nat.pow_le_pow_right (by decide) (Nat.one_le_iff_ne_zero.mpr first)
    rw [if_neg first, wordByte, Nat.div_eq_of_lt (Nat.lt_of_lt_of_le small above)]
    rfl

namespace Buffer

def emptyPushConstants : Buffer :=
  { name := generatedPushConstantName
    kind := .pushConstant
    format := some .unsignedByte }

theorem isBytes_emptyPushConstants : emptyPushConstants.IsBytes := isBytes_empty rfl rfl rfl

end Buffer

namespace PushConstant

def stop (range : PushConstant) : Nat := range.offset + range.size

def Aligned (range : PushConstant) : Prop := range.offset % 4 = 0 ∧ range.size % 4 = 0

instance (range : PushConstant) : Decidable range.Aligned := inferInstanceAs (Decidable (_ ∧ _))

def Covers (range : PushConstant) (index : Nat) : Prop :=
  range.offset ≤ index ∧ index < range.stop

instance (range : PushConstant) (index : Nat) : Decidable (range.Covers index) :=
  inferInstanceAs (Decidable (_ ∧ _))

/-- The words of a range: the first one for dimensions is their number, and all others are zero. -/
def word (range : PushConstant) (number : Nat) : Nat :=
  if range.kind = .dimensions ∧ number = 0 then 3 else 0

def byteAt (range : PushConstant) (index : Nat) : UInt8 :=
  wordByte (range.word ((index - range.offset) / 4)) ((index - range.offset) % 4)

def write (range : PushConstant) : ByteWrite :=
  ⟨range.offset, Workbench.pushConstantBytes range⟩

theorem size_pushConstantBytes (range : PushConstant) :
    (Workbench.pushConstantBytes range).size = range.size := by
  unfold Workbench.pushConstantBytes
  split <;> simp

private theorem getElem?_pushConstantBytes {range : PushConstant} {place : Nat}
    (inside : place < range.size) :
    (Workbench.pushConstantBytes range)[place]? =
      some (wordByte (range.word (place / 4)) (place % 4)) := by
  unfold Workbench.pushConstantBytes word
  cases range.kind with
  | globalOffset => simp [inside, wordByte_zero]
  | regionOffset => simp [inside, wordByte_zero]
  | dimensions =>
    dsimp only
    rw [Array.getElem?_modify, Array.getElem?_replicate, if_pos inside]
    by_cases start : place = 0
    · subst start
      rfl
    · rw [if_neg (Ne.symm start)]
      by_cases first : place / 4 = 0
      · have behind : place % 4 ≠ 0 := by omega
        rw [if_pos ⟨rfl, first⟩, wordByte_of_lt (by decide), if_neg behind]
      · rw [if_neg (not_and_of_not_right _ first), wordByte_zero]

theorem reach_write (range : PushConstant) : range.write.reach = range.stop := by
  rw [ByteWrite.reach, write, size_pushConstantBytes, stop]

private theorem byte?_write (range : PushConstant) (index : Nat) :
    range.write.byte? index = if range.Covers index then some (range.byteAt index) else none := by
  unfold ByteWrite.byte? write
  dsimp only
  by_cases covered : range.Covers index
  · have ⟨start, inside⟩ := covered
    unfold stop at inside
    rw [if_pos start, if_pos covered, getElem?_pushConstantBytes (by omega), byteAt]
  · rw [if_neg covered]
    split
    · rename_i start
      have outside : range.stop ≤ index := Nat.le_of_not_lt fun inside => covered ⟨start, inside⟩
      refine Array.getElem?_eq_none ?_
      unfold stop at outside
      rw [size_pushConstantBytes]
      omega
    · rfl

private def laid (ranges : List PushConstant) : Array UInt8 := layered (ranges.map write)

/-- The last range that covers an index. -/
def covering? (ranges : List PushConstant) (index : Nat) : Option PushConstant :=
  (ranges.filter (·.Covers index)).getLast?

private theorem laid_concat (ranges : List PushConstant) (range : PushConstant) :
    laid (ranges ++ [range]) = range.write.onto (laid ranges) := by
  rw [laid, List.map_append]
  exact layered_concat _ _

private theorem max?_stop {ranges : List PushConstant} (nonempty : ranges ≠ []) :
    (ranges.map stop).max? = some (laid ranges).size := by
  have written : ranges.map write ≠ [] := mt List.map_eq_nil_iff.mp nonempty
  rw [List.max?_eq_some_iff]
  constructor
  · obtain ⟨_, member, size⟩ := size_layered_mem written
    obtain ⟨range, listed, rfl⟩ := List.mem_map.mp member
    exact List.mem_map.mpr ⟨range, listed, (size.trans range.reach_write).symm⟩
  · intro position member
    obtain ⟨range, listed, rfl⟩ := List.mem_map.mp member
    rw [← range.reach_write]
    exact size_layered_le.mp (Nat.le_refl _) _ (List.mem_map_of_mem listed)

private theorem filterMap_byte? (ranges : List PushConstant) (index : Nat) :
    (ranges.map write).filterMap (·.byte? index) =
      (ranges.filter (·.Covers index)).map (·.byteAt index) := by
  induction ranges with
  | nil => rfl
  | cons range rest ih =>
    rw [List.map_cons, List.filterMap_cons, byte?_write]
    by_cases covered : range.Covers index <;> simp [covered, ih]

private theorem getElem?_laid (ranges : List PushConstant) {index : Nat}
    (bound : index < (laid ranges).size) :
    (laid ranges)[index]? = some (((covering? ranges index).map (·.byteAt index)).getD 0) := by
  rw [laid, getElem?_layered _ bound, filterMap_byte?, List.getLast?_map, covering?]

theorem exists_first {ranges : List PushConstant} (unaligned : ∃ range ∈ ranges, ¬range.Aligned) :
    ∃ earlier range later, ranges = earlier ++ range :: later ∧
      (∀ other ∈ earlier, other.Aligned) ∧ ¬range.Aligned := by
  have found : (ranges.find? (¬·.Aligned)).isSome := by simpa using unaligned
  obtain ⟨range, found⟩ := Option.isSome_iff_exists.mp found
  obtain ⟨refused, earlier, later, split, before⟩ := List.find?_eq_some_iff_append.mp found
  exact ⟨earlier, range, later, split, by simpa using before, by simpa using refused⟩

/-- A buffer of bytes that ends where the farthest range does. The last range that covers a byte
decides it, and it is zero where there is none. -/
private structure Layout (ranges : List PushConstant) (buffer : Buffer) : Prop where
  made : buffer = Buffer.emptyPushConstants.withBytes buffer.bytes
  sized : buffer.size = buffer.bytes.size
  farthest : (ranges.map stop).max? = some buffer.size
  decided : ∀ index (bound : index < buffer.bytes.size), buffer.bytes[index] =
    ((covering? ranges index).map (·.byteAt index)).getD 0

private theorem layout_laid {ranges : List PushConstant} (nonempty : ranges ≠ []) :
    Layout ranges (Buffer.emptyPushConstants.withBytes (laid ranges)) := by
  have isBytes := Buffer.isBytes_withBytes Buffer.isBytes_emptyPushConstants.format (laid ranges)
  have size := isBytes.fitted.symm
  refine ⟨rfl, size, ?_, fun index bound => ?_⟩
  · rw [size]
    exact max?_stop nonempty
  · exact Array.getElem_eq_iff.mpr (getElem?_laid ranges bound)

end PushConstant

namespace Buffer

private theorem apply_resize_bytes {buffer : Buffer} (isBytes : buffer.IsBytes) (size : Nat) :
    (resize size).apply buffer =
      (.ok ⟨⟩, buffer.withBytes (resizeBytes buffer.bytes size)) := by
  have shape : buffer.shapeOf .unsignedByte = .ok ⟨1, 1⟩ := rfl
  rw [resize, Edit.apply_bind_of_ok (Edit.apply_get buffer),
    requireFormat_of_format isBytes.format, Edit.apply_bind_of_ok (Edit.apply_ofExcept _ _),
    Edit.apply_bind_of_ok (Edit.apply_get buffer), shape,
    Edit.apply_bind_of_ok (Edit.apply_ofExcept _ _), withBytes, size_resizeBytes]
  dsimp only
  rw [if_neg (by omega), Nat.div_one]
  rfl

end Buffer

namespace Workbench

variable {buffer : Buffer} {range : PushConstant} {ranges earlier later : List PushConstant}

theorem apply_writePushConstant_unaligned (unaligned : ¬range.Aligned) (buffer : Buffer) :
    (writePushConstant range).apply buffer =
      (.error (.pipeline (.unalignedPushConstant range.offset range.size)), buffer) := by
  rw [writePushConstant, if_pos (not_and_or.mp unaligned)]
  rfl

theorem apply_writePushConstant (aligned : range.Aligned) (isBytes : buffer.IsBytes) :
    (writePushConstant range).apply buffer =
      (.ok ⟨⟩, buffer.withBytes (range.write.onto buffer.bytes)) := by
  have size : buffer.size = buffer.bytes.size := isBytes.fitted.symm
  rw [writePushConstant, if_neg (not_or.mpr (aligned.imp not_not_intro not_not_intro)),
    Edit.apply_bind_of_ok (Edit.apply_get buffer), size, ByteWrite.onto, range.reach_write,
    PushConstant.stop]
  dsimp only
  by_cases short : buffer.bytes.size < range.offset + range.size
  · rw [if_pos short, Edit.apply_bind_of_ok (Buffer.apply_resize_bytes isBytes _),
      Nat.max_eq_right (Nat.le_of_lt short), Buffer.withBytes, Buffer.withBytes,
      size_pasteBytes]
    rfl
  · rw [if_neg short, Nat.max_eq_left (Nat.le_of_not_lt short), resizeBytes_size,
      Buffer.withBytes, size_pasteBytes, ← isBytes.elementCount]
    rfl

/-- Ranges written into an empty buffer are laid over one another. -/
private theorem apply_writePushConstants (isBytes : buffer.IsBytes) (empty : buffer.bytes = #[])
    (aligned : ∀ range ∈ ranges, range.Aligned) :
    (ranges.forM writePushConstant).apply buffer =
      (.ok ⟨⟩, buffer.withBytes (PushConstant.laid ranges)) := by
  induction ranges using List.reverseRecOn with
  | nil =>
    have same := isBytes.withBytes_bytes.symm
    rw [empty] at same
    exact Prod.ext rfl same
  | append_singleton earlier range ih =>
    obtain ⟨before, last⟩ := List.forall_mem_append.mp aligned
    rw [Edit.apply_forM_append_of_ok (ih before), PushConstant.laid_concat]
    exact Edit.apply_bind_of_ok (apply_writePushConstant (List.forall_mem_singleton.mp last)
      (Buffer.isBytes_withBytes isBytes.format _)) _

/-- The first range that is not aligned ends the writing. -/
private theorem apply_writePushConstants_unaligned (isBytes : buffer.IsBytes)
    (empty : buffer.bytes = #[])
    (aligned : ∀ range ∈ earlier, range.Aligned) (unaligned : ¬range.Aligned) :
    ((earlier ++ range :: later).forM writePushConstant).apply buffer =
      (.error (.pipeline (.unalignedPushConstant range.offset range.size)),
        buffer.withBytes (PushConstant.laid earlier)) := by
  rw [Edit.apply_forM_append_of_ok (apply_writePushConstants isBytes empty aligned)]
  exact Edit.apply_bind_of_error (apply_writePushConstant_unaligned unaligned _) _

/-- The writing of every range is reached, and the range is inside of the buffer when its bytes are
put there. -/
private def WritesInside (ranges : List PushConstant) (start : Buffer) : Prop :=
  ∀ earlier range later, ranges = earlier ++ range :: later →
    ∃ before after, (earlier.forM writePushConstant).apply start = (.ok ⟨⟩, before) ∧
      (writePushConstant range).apply before = (.ok ⟨⟩, after) ∧
      range.stop ≤ after.bytes.size ∧
      after.bytes = pasteBytes (resizeBytes before.bytes after.bytes.size) range.offset
        (pushConstantBytes range)

private theorem writesInside (isBytes : buffer.IsBytes) (empty : buffer.bytes = #[])
    (aligned : ∀ range ∈ ranges, range.Aligned) : WritesInside ranges buffer := by
  rintro earlier range later rfl
  obtain ⟨before, last⟩ := List.forall_mem_append.mp aligned
  have written := apply_writePushConstant (List.forall_mem_cons.mp last).1
    (Buffer.isBytes_withBytes isBytes.format (PushConstant.laid earlier))
  have size := range.write.size_onto (PushConstant.laid earlier)
  refine ⟨_, _, apply_writePushConstants isBytes empty before, written, ?_, ?_⟩
  · rw [Buffer.withBytes, Buffer.withBytes, size, range.reach_write]
    exact Nat.le_max_right _ _
  · rw [Buffer.withBytes, Buffer.withBytes, size]
    rfl

/-- The bench with a buffer added for the push constants of its pipeline. -/
def addingPushConstants (bench : Workbench) (buffer : Buffer) : Workbench :=
  { bench with
    pipeline := { bench.pipeline with
      pushConstants := some { buffer := bench.buffers.nextId, kind := .pushConstant } }
    buffers := bench.buffers.push buffer }

theorem apply_makePushConstants {bench : Workbench} {kernel : AttachedShader}
    (present : bench.pipeline.kernel? = some kernel)
    (unbound : bench.pipeline.pushConstants = none) (reads : kernel.pushConstants ≠ []) :
    makePushConstants.apply bench =
      let written := (kernel.pushConstants.forM writePushConstant).apply .emptyPushConstants
      (written.1, bench.addingPushConstants written.2) := by
  have nonempty : kernel.pushConstants.isEmpty = false := List.isEmpty_eq_false_iff.mpr reads
  have made := apply_makePushConstantBuffer bench
  rw [unbound] at made
  have stored : bench.withPushConstants.buffers.requireBuffer bench.buffers.nextId =
      .ok .emptyPushConstants :=
    Store.requireBuffer_ok_iff.mpr (Store.get?_nextId bench.buffers .emptyPushConstants)
  rw [makePushConstants, Edit.apply_bind_of_ok (Edit.apply_get bench), present]
  dsimp only
  rw [nonempty]
  refine (Edit.apply_bind_of_ok made _).trans ?_
  rw [apply_onBuffer, stored]
  refine Prod.ext rfl ?_
  exact congrArg (fun buffers => { bench.withPushConstants with buffers })
    (Store.set_push_nextId bench.buffers _ _)

/-- The buffer that is made for push constants is laid out as they say: it ends where the farthest
of them does, and each byte is that of the last one that covers it. No range is outside of the
buffer when it is written. The first range that is not aligned is refused. -/
theorem makePushConstants_exact {bench : Workbench} {kernel : AttachedShader}
    (present : bench.pipeline.kernel? = some kernel)
    (unbound : bench.pipeline.pushConstants = none) (reads : kernel.pushConstants ≠ []) :
    let outcome := makePushConstants.apply bench
    ((∀ range ∈ kernel.pushConstants, range.Aligned) →
      WritesInside kernel.pushConstants .emptyPushConstants ∧
      ∃ buffer, outcome = (.ok ⟨⟩, bench.addingPushConstants buffer) ∧
        PushConstant.Layout kernel.pushConstants buffer) ∧
    ((∃ range ∈ kernel.pushConstants, ¬range.Aligned) →
      ∃ earlier range later, kernel.pushConstants = earlier ++ range :: later ∧
        (∀ other ∈ earlier, other.Aligned) ∧ ¬range.Aligned ∧
        outcome.1 = .error (.pipeline (.unalignedPushConstant range.offset range.size))) := by
  intro outcome
  have ran : outcome = _ := apply_makePushConstants present unbound reads
  have isBytes := Buffer.isBytes_emptyPushConstants
  rw [ran]
  constructor
  · intro aligned
    rw [apply_writePushConstants isBytes rfl aligned]
    exact ⟨writesInside isBytes rfl aligned, _, rfl, PushConstant.layout_laid reads⟩
  · intro unaligned
    obtain ⟨earlier, range, later, split, before, first⟩ := PushConstant.exists_first unaligned
    refine ⟨earlier, range, later, split, before, first, ?_⟩
    rw [split, apply_writePushConstants_unaligned isBytes rfl before first]

/-- The dimensions at the fourth byte are over the end of the offset before them, and no range
covers the four bytes before the last ones. In the other list the second range does not begin at a
word. -/
theorem makePushConstants_exact_overlapping :
    let kernel (pushConstants : List PushConstant) : AttachedShader :=
      { shader := ⟨0⟩, name := "k", format := .openClC, stage := .compute, pushConstants }
    let bench (pushConstants : List PushConstant) : Workbench :=
      { pipeline := { name := "run", kind := .compute, shaders := [kernel pushConstants] } }
    let whole : List PushConstant :=
      [⟨.globalOffset, 0, 8⟩, ⟨.dimensions, 4, 8⟩, ⟨.dimensions, 16, 4⟩]
    let uneven : List PushConstant := [⟨.dimensions, 0, 4⟩, ⟨.regionOffset, 6, 4⟩]
    (∃ buffer, makePushConstants.apply (bench whole) =
        (.ok ⟨⟩, (bench whole).addingPushConstants buffer) ∧
      PushConstant.Layout whole buffer ∧ buffer.size = 20 ∧
      buffer.bytes = #[0, 0, 0, 0, 3, 0, 0, 0, 0, 0, 0, 0, 0, 0, 0, 0, 3, 0, 0, 0]) ∧
    (makePushConstants.apply (bench uneven)).1 =
      .error (.pipeline (.unalignedPushConstant 6 4)) := by
  intro kernel bench whole uneven
  constructor
  · obtain ⟨arranged, -⟩ := @makePushConstants_exact (bench whole) (kernel whole)
      (by decide +kernel) rfl (by decide +kernel)
    obtain ⟨-, buffer, done, layout⟩ := arranged (by decide +kernel)
    have bytes : ((makePushConstants.apply (bench whole)).2.buffers.get? ⟨0⟩).map Buffer.bytes =
        some #[0, 0, 0, 0, 3, 0, 0, 0, 0, 0, 0, 0, 0, 0, 0, 0, 3, 0, 0, 0] := by decide +kernel
    rw [done] at bytes
    exact ⟨buffer, done, layout, Option.some.inj (layout.farthest.symm.trans rfl),
      Option.some.inj bytes⟩
  · obtain ⟨-, refused⟩ := @makePushConstants_exact (bench uneven) (kernel uneven)
      (by decide +kernel) rfl (by decide +kernel)
    obtain ⟨earlier, range, later, split, -, unaligned, failed⟩ := refused (by decide +kernel)
    have member : range ∈ uneven :=
      (congrArg (range ∈ ·) split).mpr (List.mem_append_right _ List.mem_cons_self)
    rcases List.mem_cons.mp member with rfl | last
    · exact absurd (by decide +kernel) unaligned
    · obtain rfl := List.mem_singleton.mp last
      exact failed

end Workbench

end GpuScript
