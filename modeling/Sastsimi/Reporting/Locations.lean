import Sastsimi.Lib.JsonEncoding
import Sastsimi.Lib.Raising

/-!
# Code locations in report content

A report proposal is checked as its canonical text: the location pattern is searched in the
encoded JSON, and every reference that is no bare network endpoint has to lie inside an allowed
location.
-/

namespace Sastsimi.Reporting

open Sastsimi.Lib

/-! ## The location pattern -/

/-- The word characters of a pattern: letters, digits and the underscore. -/
structure WordClass where
  test : Char → Bool
  ascii : ∀ character, character.toNat < 128 →
    test character = (character.isAlphanum || character == '_')

/-- The characters of a path segment. -/
def isPathChar (character : Char) : Bool :=
  character.isAlphanum || character == '_' || character == '.' || character == '-'

def isPathOrSlash (character : Char) : Bool := isPathChar character || character == '/'

/-- Whether path segments follow; after a slash a segment has to start. -/
def pathFrom : Bool → List Char → Bool
  | afterSlash, [] => !afterSlash
  | afterSlash, character :: rest =>
      if character == '/' then !afterSlash && pathFrom true rest else pathFrom false rest

/-- A path:line reference. -/
structure Reference where
  path : String
  line : Nat
  deriving DecidableEq

/-- Whether a line number starts here. -/
def startsLine : List Char → Bool
  | [] => false
  | character :: _ => character.isDigit && character != '0'

/-- The match of the location pattern at the start of a text, and the text behind it.  The
longest run of path characters is the only one that a colon can follow. -/
def matchLocation (text : List Char) : Option (Reference × List Char) :=
  match text.dropWhile isPathOrSlash with
  | ':' :: rest =>
      let path := text.takeWhile isPathOrSlash
      if pathFrom true path && startsLine rest then
        some (⟨String.ofList path, Nat.ofDigitChars 10 (rest.takeWhile Char.isDigit) 0⟩,
          rest.dropWhile Char.isDigit)
      else none
  | _ => none

/-- Whether a match may start behind a character. -/
def WordClass.opens (word : WordClass) (before : Char) : Bool :=
  !(word.test before || before == '.' || before == '/' || before == '-')

/-- The matches of the pattern, from left to right and without overlap: `opens` tells whether a
match may start here, and `skip` counts the characters left of the current match. -/
def WordClass.scan (word : WordClass) : Bool → Nat → List Char → List Reference
  | _, _, [] => []
  | _, skip + 1, character :: rest => word.scan (word.opens character) skip rest
  | opens, 0, character :: rest =>
      match opens, matchLocation (character :: rest) with
      | true, some (found, after) =>
          found :: word.scan (word.opens character) (rest.length - after.length) rest
      | _, _ => word.scan (word.opens character) 0 rest

/-- The references of a text. -/
def WordClass.references (word : WordClass) (text : List Char) : List Reference :=
  word.scan true 0 text

/-! ## Bare endpoints -/

/-- One number of a dotted address: at most three digits, without leading zero, below 256. -/
def isOctet (text : List Char) : Bool :=
  text.all Char.isDigit && !text.isEmpty && decide (text.length ≤ 3) &&
    (decide (text.length = 1) || text.head? != some '0') &&
    decide (Nat.ofDigitChars 10 text 0 < 256)

/-- An IPv4 address in dotted notation. -/
def isIPv4Address (text : String) : Bool :=
  let parts := text.toList.splitOn '.'
  decide (parts.length = 4) && parts.all isOctet

/-- A host with a port instead of a file with a line. -/
def isBareEndpoint (path : String) (port : Nat) : Bool :=
  decide (1 ≤ port ∧ port ≤ 65535) &&
    (path.toList.map Char.toLower == "localhost".toList || isIPv4Address path)

/-! ## Report content -/

structure CodeLocation where
  workspaceId : String
  commitId : String
  filePath : String
  startLine : Nat
  startColumn : Option Nat
  endLine : Nat
  endColumn : Option Nat

/-- The content of a proposal in one language. -/
structure ReportContent where
  title : String
  summary : String
  details : String
  recommendation : String
  citations : List CodeLocation

/-- One language of a proposal with two. -/
structure ReportProse where
  title : String
  summary : String
  details : String
  impact : String
  recommendation : String
  limitations : List String
  reviewItems : List String

structure BilingualReportContent where
  en : ReportProse
  ko : ReportProse
  citations : List CodeLocation

inductive Content where
  | single (content : ReportContent)
  | bilingual (content : BilingualReportContent)

def Content.citations : Content → List CodeLocation
  | .single content => content.citations
  | .bilingual content => content.citations

/-! ## Canonical text -/

def column : Option Nat → Json
  | some value => .int value
  | none => .null

def CodeLocation.json (location : CodeLocation) : Json :=
  .obj [("workspace_id", .str location.workspaceId), ("commit_id", .str location.commitId),
    ("file_path", .str location.filePath), ("start_line", .int location.startLine),
    ("start_column", column location.startColumn), ("end_line", .int location.endLine),
    ("end_column", column location.endColumn)]

def ReportContent.json (content : ReportContent) : Json :=
  .obj [("title", .str content.title), ("summary", .str content.summary),
    ("details", .str content.details), ("recommendation", .str content.recommendation),
    ("citations", .arr (content.citations.map CodeLocation.json))]

def ReportProse.json (prose : ReportProse) : Json :=
  .obj [("title", .str prose.title), ("summary", .str prose.summary),
    ("details", .str prose.details), ("impact", .str prose.impact),
    ("recommendation", .str prose.recommendation),
    ("limitations", .arr (prose.limitations.map Json.str)),
    ("review_items", .arr (prose.reviewItems.map Json.str))]

def BilingualReportContent.json (content : BilingualReportContent) : Json :=
  .obj [("schema_version", .int 2), ("en", content.en.json), ("ko", content.ko.json),
    ("citations", .arr (content.citations.map CodeLocation.json))]

def Content.json : Content → Json
  | .single content => content.json
  | .bilingual content => content.json

/-- The canonical text of a content; its numbers are integers. -/
def Content.canonicalText (content : Content) : List Char := content.json.sorted.text

/-! ## The check -/

/-- Whether a reference lies inside an allowed location. -/
def Reference.supported (allowed : List CodeLocation) (reference : Reference) : Bool :=
  allowed.any fun location =>
    location.filePath == reference.path && decide (location.startLine ≤ reference.line) &&
      decide (reference.line ≤ location.endLine)

/-- Whether a citation lies inside an allowed location. -/
def CodeLocation.supported (allowed : List CodeLocation) (citation : CodeLocation) : Bool :=
  allowed.any fun location =>
    location.filePath == citation.filePath && decide (location.startLine ≤ citation.startLine) &&
      decide (citation.endLine ≤ location.endLine)

/-- A reference may stand in a report. -/
def Reference.permitted (allowed : List CodeLocation) (reference : Reference) : Bool :=
  isBareEndpoint reference.path reference.line || reference.supported allowed

def locationUnsupported : String := "REPORT_CODE_LOCATION_UNSUPPORTED"

/-- The loop over the references of the canonical text. -/
def checkReferences (word : WordClass) (allowed : List CodeLocation) (text : List Char) :
    Except String Unit :=
  (word.references text).forM fun reference =>
    raiseIf (!reference.permitted allowed) locationUnsupported

/-- The checks of the text and of the prose that look for other things than locations. -/
structure OtherChecks where
  assertSafeProviderText : List Char → Except String Unit
  hiddenReasoning : List Char → Bool
  rejectUnverifiedAdvisoryClaims : BilingualReportContent → Except String Unit

/-- The checks in front of the locations. -/
def OtherChecks.pass (checks : OtherChecks) (content : Content) : Except String Unit := do
  checks.assertSafeProviderText content.canonicalText
  raiseIf (checks.hiddenReasoning content.canonicalText) "REPORT_HIDDEN_REASONING_DENIED"
  match content with
  | .single _ => pure ()
  | .bilingual content => checks.rejectUnverifiedAdvisoryClaims content

/-- The canonical text of a content that passes every check. -/
def validateReportContent (word : WordClass) (checks : OtherChecks)
    (allowed : List CodeLocation) (content : Content) : Except String (List Char) := do
  checks.pass content
  content.citations.forM fun citation =>
    raiseIf (!citation.supported allowed) locationUnsupported
  checkReferences word allowed content.canonicalText
  pure content.canonicalText

end Sastsimi.Reporting
