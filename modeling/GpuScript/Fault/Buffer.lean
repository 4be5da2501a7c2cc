import GpuScript.Number.Decimal

namespace GpuScript

inductive BufferCause where
  | needsFormat (buffer : String)
  /-- An element of the format has no bytes or takes no values. -/
  | noComponents (buffer : String)
  | tooManyValues
  | partialElement (buffer : String) (size stride : Nat)
  /-- A copy between buffers of different width, height or element count. -/
  | copyWidth
  | copyHeight
  | copyCount
  /-- A comparison of buffers of different shape. -/
  | formatDiffers
  | countDiffers
  | widthDiffers
  | heightDiffers
  | valueCountDiffers
  /-- The number of bytes that differ, the position of the first of them, and its two values. -/
  | bytesDiffer (count first : Nat) (left right : UInt8)
  | rootMeanSquare (error : Double) (tolerance : Single)
  /-- The bytes end before the last element. -/
  | missingBytes (buffer : String)
  | noHistogram
  | earthMovers (distance : Double) (tolerance : Single)
  deriving DecidableEq

def BufferCause.message : BufferCause → String
  | .needsFormat buffer => s!"buffer {buffer} requires a format"
  | .noComponents buffer => s!"buffer {buffer} format has no components"
  | .tooManyValues => "Mismatched number of items in buffer"
  | .partialElement buffer size stride =>
    s!"buffer {buffer} size of {size} bytes is not a multiple of the element size {stride}"
  | .copyWidth => "Buffer::CopyBaseFields() buffers have a different width"
  | .copyHeight => "Buffer::CopyBaseFields() buffers have a different height"
  | .copyCount => "Buffer::CopyBaseFields() buffers have a different size"
  | .formatDiffers => "Buffers have a different format"
  | .countDiffers => "Buffers have a different size"
  | .widthDiffers => "Buffers have a different width"
  | .heightDiffers => "Buffers have a different height"
  | .valueCountDiffers => "Buffers have a different number of values"
  | .bytesDiffer count first left right =>
    s!"Buffers have different values. {count} values differed, " ++
      s!"first difference at byte {first} values {left} != {right}"
  | .rootMeanSquare error tolerance =>
    "Root Mean Square Error of " ++ error.toFixedText ++ " is greater than tolerance of " ++
      (Double.ofSingle tolerance).toFixedText
  | .missingBytes buffer => s!"buffer {buffer} is smaller than its element count"
  | .noHistogram => "EMD comparison only supports 8bit unorm format with four channels."
  | .earthMovers distance tolerance =>
    "Histogram EMD value of " ++ distance.toFixedText ++ " is greater than tolerance of " ++
      (Double.ofSingle tolerance).toFixedText

end GpuScript
