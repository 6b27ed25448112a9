import ReplayFlow.Malformed
import ReplayFlow.Text.Quoted

/-!
Everything that can stop an operation: a refused document, a value of the wrong
shape, a name that leads out of its directory, and what a file system answers.
-/

namespace ReplayFlow

/-- What a file system answers when it cannot do what is asked at a path. -/
inductive PathTrouble where
  | notFound
  | alreadyThere
  | notDirectory
  | isDirectory
  | nameTooLong
  deriving DecidableEq

namespace PathTrouble

def number : PathTrouble → Nat
  | notFound => 2
  | alreadyThere => 17
  | notDirectory => 20
  | isDirectory => 21
  | nameTooLong => 36

def description : PathTrouble → String
  | notFound => "No such file or directory"
  | alreadyThere => "File exists"
  | notDirectory => "Not a directory"
  | isDirectory => "Is a directory"
  | nameTooLong => "File name too long"

end PathTrouble

inductive Fault where
  | malformed (cause : Malformed)
  /-- An object was needed. -/
  | notObject
  /-- A value with members was needed. -/
  | notIterable
  /-- A text was needed. -/
  | notText
  /-- An array or object stood where a key or member of a set was needed. -/
  | containerAsKey
  /-- A place lies outside an array. -/
  | outOfRange
  | oversizedInteger (digits : Nat)
  | notUtf8 (failure : Utf8.Failure)
  | outside (base name : String)
  | nullInPath
  | nullInVariable
  /-- A relative directory cannot hold an absolute path. -/
  | mixedPaths
  /-- A pattern for file names that says nothing, or has two stars beside other signs. -/
  | badPattern (pattern : String)
  /-- Patterns for file names are relative to the directory they list. -/
  | absolutePattern (pattern : String)
  /-- A pattern for file names that leads nowhere: points and slashes alone. -/
  | patternOfDots
  /-- The same with a slash at its end. -/
  | patternOfDotsClosed
  /-- A template with a percent sign that starts no directive. -/
  | badTemplate
  /-- A directive cannot show what it is about. -/
  | unfitSubject
  | noProperty (name : String)
  /-- An option has no value where one is needed. -/
  | valueMissing
  /-- The target of a request is too long, or its parts cannot be told apart. -/
  | badTarget
  /-- The body of a request has a number that is not finite. -/
  | infiniteNumber
  /-- Nothing answers for a scheme. -/
  | unknownScheme
  /-- A host cannot be told from the number that follows it. -/
  | unclearHost
  /-- A scheme is for talks of more than one request. -/
  | conversation
  | sentOnTooOften
  | inputMissing (path : String)
  | atPath (trouble : PathTrouble) (path : String)
  deriving DecidableEq

namespace Fault

def message : Fault → String
  | malformed cause => cause.message
  | notObject => "an object was needed"
  | notIterable => "a value with members was needed"
  | notText => "a text was needed"
  | containerAsKey => "an array or object is no key"
  | outOfRange => "a place lies outside an array"
  | oversizedInteger digits => Json.oversizedMessage digits
  | notUtf8 failure => failure.message
  | outside base name => "Invalid path outside " ++ base ++ ": " ++ name
  | nullInPath => "embedded null byte"
  | nullInVariable => "embedded null byte"
  | mixedPaths => "Can't mix absolute and relative paths"
  | badPattern pattern => "Invalid pattern: " ++ pattern
  | absolutePattern pattern => "Absolute pattern: " ++ pattern
  | patternOfDots => "a pattern leads nowhere"
  | patternOfDotsClosed => "a pattern leads nowhere"
  | badTemplate => "a percent sign starts no directive"
  | unfitSubject => "a directive cannot show its subject"
  | noProperty name => "an option has no property " ++ name
  | valueMissing => "an option has no value"
  | badTarget => "a request has no target"
  | infiniteNumber => "a number in the body of a request is not finite"
  | unknownScheme => "nothing answers for the scheme of a target"
  | unclearHost => "the host of a target is not clear"
  | conversation => "a target asks for more than one answer"
  | sentOnTooOften => "a request was sent on too often"
  | inputMissing path => "Input directory not found: " ++ path
  | atPath trouble path =>
    "[Errno " ++ toString trouble.number ++ "] " ++ trouble.description ++ ": " ++
      String.ofList (Text.quoted path.toList)

end Fault

end ReplayFlow
