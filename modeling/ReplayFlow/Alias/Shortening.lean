import ReplayFlow.Data.OrderedMap
import ReplayFlow.Text.Basic
import ReplayFlow.Text.WordChar

/-!
Paths written with tokens. `shorten` puts the token of the longest known head in
front of the rest of a path, and `expand` puts the head back for each token.
-/

namespace ReplayFlow.Alias

/-- What a written path consists of: plain characters and tokens. -/
inductive Piece where
  | char (c : Char)
  | token (key : List Char)
  deriving DecidableEq

def tokenChars (key : List Char) : List Char := '\x7b' :: '\x7b' :: key ++ ['\x7d', '\x7d']

/-- The key of a token at the head of a text: word characters between double braces. -/
def tokenAt? : List Char → Option (List Char)
  | '\x7b' :: '\x7b' :: rest =>
    match rest.takeWhile Text.isWordChar, rest.dropWhile Text.isWordChar with
    | c :: key, '\x7d' :: '\x7d' :: _ => some (c :: key)
    | _, _ => none
  | _ => none

/-- Reads a text from left to right, past the characters of a token already read. -/
def scanFrom : Nat → List Char → List Piece
  | _, [] => []
  | skip + 1, _ :: text => scanFrom skip text
  | 0, c :: text =>
    match tokenAt? (c :: text) with
    | some key => .token key :: scanFrom (key.length + 3) text
    | none => .char c :: scanFrom 0 text

def scan (text : List Char) : List Piece := scanFrom 0 text

/-- The text of a piece: a token stands for its head, or for itself when its key is unknown. -/
def Piece.expand (heads : OrderedMap String) : Piece → List Char
  | .char c => [c]
  | .token key =>
    match heads.get? (String.ofList key) with
    | some head => head.toList
    | none => tokenChars key

/-- A path with each token of a known key replaced by its head. -/
def expand (heads : OrderedMap String) (path : String) : String :=
  String.ofList ((scan path.toList).flatMap (Piece.expand heads))

/-- The key of the longest head that starts a path, with the rest of the path; of equal
heads the first. -/
def longestHead? : Entries String → List Char → Option (String × List Char)
  | [], _ => none
  | (key, head) :: more, path =>
    match Text.after? head.toList path, longestHead? more path with
    | some rest, some (key', rest') =>
      if rest'.length < rest.length then some (key', rest') else some (key, rest)
    | some rest, none => some (key, rest)
    | none, found => found

/-- A path with its longest known head written as a token. -/
def shorten (heads : OrderedMap String) (path : String) : String :=
  match longestHead? heads.entries path.toList with
  | some (key, rest) => String.ofList (tokenChars key.toList ++ rest)
  | none => path

end ReplayFlow.Alias
