/-!
# Failures of header compression

Why a header block, a number or a text in it cannot be read.
-/

namespace Http2.Header

inductive IntegerFailure where
  | notEnoughOctets
  | tooManyOctets
  deriving DecidableEq, Repr

inductive HuffmanFailure where
  | paddingTooLarge
  | invalidPadding
  | endMark
  deriving DecidableEq, Repr

inductive Failure where
  | indexOutOfBounds
  | integer (failure : IntegerFailure)
  | textTooShort
  | huffman (failure : HuffmanFailure)
  | sizeUpdateAtEnd
  | sizeUpdate (failure : IntegerFailure)
  deriving DecidableEq, Repr

def IntegerFailure.text : IntegerFailure → String
  | notEnoughOctets => "NotEnoughOctets"
  | tooManyOctets => "TooManyOctets"

def HuffmanFailure.text : HuffmanFailure → String
  | paddingTooLarge => "PaddingTooLarge"
  | invalidPadding => "InvalidPadding"
  | endMark => "EOSInString"

def Failure.text : Failure → String
  | indexOutOfBounds => "HeaderIndexOutOfBounds"
  | integer failure => "IntegerDecodingError(" ++ failure.text ++ ")"
  | textTooShort => "StringDecodingError(NotEnoughOctets)"
  | huffman failure => "StringDecodingError(HuffmanDecoderError(" ++ failure.text ++ "))"
  | sizeUpdateAtEnd => "SizeUpdateAtEnd"
  | sizeUpdate failure => "SizeUpdateDecodingError(" ++ failure.text ++ ")"

end Http2.Header
