import AutoProxy.Text.Basic

/-! What is wrong with compressed data. -/
namespace AutoProxy.Compression

inductive Fault where
  | header
  | method
  | window
  | headerFlags
  | headerChecksum
  | dictionary
  | blockType
  | storedLength
  | symbolCount
  | lengthLengths
  | repetition
  | noEnd
  | literalLengths
  | distanceLengths
  | literalCode
  | distanceCode
  | distance
  | checksum
  | size
  deriving DecidableEq

/-- Why reading comes to a halt: the data is not all there yet, or it is wrong. -/
inductive Halt where
  | more
  | fault (cause : Fault)
  deriving DecidableEq

def Fault.reason : Fault → String
  | .header => "incorrect header check"
  | .method => "unknown compression method"
  | .window => "invalid window size"
  | .headerFlags => "unknown header flags set"
  | .headerChecksum => "header crc mismatch"
  | .dictionary => "need dictionary"
  | .blockType => "invalid block type"
  | .storedLength => "invalid stored block lengths"
  | .symbolCount => "too many length or distance symbols"
  | .lengthLengths => "invalid code lengths set"
  | .repetition => "invalid bit length repeat"
  | .noEnd => "invalid code -- missing end-of-block"
  | .literalLengths => "invalid literal/lengths set"
  | .distanceLengths => "invalid distances set"
  | .literalCode => "invalid literal/length code"
  | .distanceCode => "invalid distance code"
  | .distance => "invalid distance too far back"
  | .checksum => "incorrect data check"
  | .size => "incorrect length check"

/-- A dictionary that is asked for is no error of the data, and has no reason of its own. -/
def Fault.message : Fault → Text
  | .dictionary => "Error 2 while decompressing data".toList
  | e => "Error -3 while decompressing data: ".toList ++ e.reason.toList

end AutoProxy.Compression
