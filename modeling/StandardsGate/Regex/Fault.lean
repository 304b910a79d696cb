/-!
What can be wrong with a written pattern.
-/

namespace StandardsGate.Regex

/-- The reasons for which a pattern is no regular expression. -/
inductive Fault
  | groupUnclosed
  | groupUnopened
  | groupNameInvalid
  | groupNameRepeated
  | flagUnknown
  | flagRepeated
  | flagDangling
  | flagsMissing
  | lookAround
  | repetitionMissing
  | repetitionUnclosed
  | repetitionCount
  | repetitionOrder
  | escapeUnfinished
  | escapeUnknown
  | backreference
  | codePointInvalid
  | classUnclosed
  | classRangeInvalid
  | classItemInvalid
  | propertyUnknown
  | boundaryUnknown
  | invalidUtf8
  | unicodeRequired
  | nestedTooDeep
deriving DecidableEq, Repr

/-- The wording of a fault. -/
def Fault.message : Fault → String
  | groupUnclosed => "unclosed group"
  | groupUnopened => "unopened group"
  | groupNameInvalid => "invalid capture group name"
  | groupNameRepeated => "duplicate capture group name"
  | flagUnknown => "unrecognized flag"
  | flagRepeated => "duplicate flag"
  | flagDangling => "dangling flag negation operator"
  | flagsMissing => "missing flags"
  | lookAround => "look-around, including look-ahead and look-behind, is not supported"
  | repetitionMissing => "repetition operator missing expression"
  | repetitionUnclosed => "unclosed counted repetition"
  | repetitionCount => "repetition quantifier expects a valid decimal"
  | repetitionOrder => "invalid repetition count range, the start must be <= the end"
  | escapeUnfinished => "incomplete escape sequence, reached end of pattern prematurely"
  | escapeUnknown => "unrecognized escape sequence"
  | backreference => "backreferences are not supported"
  | codePointInvalid => "hexadecimal literal is not a Unicode scalar value"
  | classUnclosed => "unclosed character class"
  | classRangeInvalid => "invalid character class range"
  | classItemInvalid => "invalid escape sequence found in character class"
  | propertyUnknown => "Unicode property not found"
  | boundaryUnknown => "unrecognized special word boundary assertion"
  | invalidUtf8 => "pattern can match invalid UTF-8"
  | unicodeRequired => "Unicode not allowed here"
  | nestedTooDeep => "exceeded the maximum number of nested parentheses/brackets"

end StandardsGate.Regex
