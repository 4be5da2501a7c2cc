namespace GpuScript

def knownFeatures : List String :=
  ["robustBufferAccess", "fullDrawIndexUint32", "imageCubeArray", "independentBlend",
    "geometryShader", "tessellationShader", "sampleRateShading", "dualSrcBlend", "logicOp",
    "multiDrawIndirect", "drawIndirectFirstInstance", "depthClamp", "depthBiasClamp",
    "fillModeNonSolid", "depthBounds", "wideLines", "largePoints", "alphaToOne", "multiViewport",
    "samplerAnisotropy", "textureCompressionETC2", "textureCompressionASTC_LDR",
    "textureCompressionBC", "occlusionQueryPrecise", "pipelineStatisticsQuery",
    "vertexPipelineStoresAndAtomics", "fragmentStoresAndAtomics",
    "shaderTessellationAndGeometryPointSize", "shaderImageGatherExtended",
    "shaderStorageImageExtendedFormats", "shaderStorageImageMultisample",
    "shaderStorageImageReadWithoutFormat", "shaderStorageImageWriteWithoutFormat",
    "shaderUniformBufferArrayDynamicIndexing", "shaderSampledImageArrayDynamicIndexing",
    "shaderStorageBufferArrayDynamicIndexing", "shaderStorageImageArrayDynamicIndexing",
    "shaderClipDistance", "shaderCullDistance", "shaderFloat64", "shaderInt64", "shaderInt16",
    "shaderResourceResidency", "shaderResourceMinLod", "sparseBinding", "sparseResidencyBuffer",
    "sparseResidencyImage2D", "sparseResidencyImage3D", "sparseResidency2Samples",
    "sparseResidency4Samples", "sparseResidency8Samples", "sparseResidency16Samples",
    "sparseResidencyAliased", "variableMultisampleRate", "inheritedQueries",
    "VariablePointerFeatures.variablePointers",
    "VariablePointerFeatures.variablePointersStorageBuffer", "Float16Int8Features.shaderFloat16",
    "Float16Int8Features.shaderInt8", "Storage8BitFeatures.storageBuffer8BitAccess",
    "Storage8BitFeatures.uniformAndStorageBuffer8BitAccess",
    "Storage8BitFeatures.storagePushConstant8", "Storage16BitFeatures.storageBuffer16BitAccess",
    "Storage16BitFeatures.uniformAndStorageBuffer16BitAccess",
    "Storage16BitFeatures.storagePushConstant16", "Storage16BitFeatures.storageInputOutput16",
    "SubgroupSizeControl.subgroupSizeControl", "SubgroupSizeControl.computeFullSubgroups",
    "SubgroupSupportedOperations.basic", "SubgroupSupportedOperations.vote",
    "SubgroupSupportedOperations.arithmetic", "SubgroupSupportedOperations.ballot",
    "SubgroupSupportedOperations.shuffle", "SubgroupSupportedOperations.shuffleRelative",
    "SubgroupSupportedOperations.clustered", "SubgroupSupportedOperations.quad",
    "SubgroupSupportedStages.vertex", "SubgroupSupportedStages.tessellationControl",
    "SubgroupSupportedStages.tessellationEvaluation", "SubgroupSupportedStages.geometry",
    "SubgroupSupportedStages.fragment", "SubgroupSupportedStages.compute"]

/-- The extensions that belong to an instance; all others belong to a device. -/
def instanceExtensions : List String := ["VK_KHR_get_physical_device_properties2"]

end GpuScript
