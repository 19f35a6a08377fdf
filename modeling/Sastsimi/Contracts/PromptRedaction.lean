import Sastsimi.Contracts.CanonicalJson
import Sastsimi.Contracts.RedactionPatterns
import Sastsimi.Lib.JsonDecoding

/-!
# Redaction

`prompt_redaction`: the redaction of a text and of a JSON document, the guard on what is left, and
the prompt that is rendered from redacted documents.  Bytes are the characters they encode.  A text
that names half of a surrogate pair, or a number or a depth that the interpreter does not convert,
makes `json.loads` raise.
-/

namespace Sastsimi.Contracts

open Sastsimi.Lib Sastsimi.Runtime Regex

/-! ## Interpreter -/

/-- What the interpreter limits, and `float.__repr__` of the number of a literal; there is none of
a number that is not finite. -/
structure Interpreter where
  limits : Grammar.Limits
  floatRepr : String → Option String

/-- How a redaction fails: with `PROMPT_REDACTION_FAILED`, or with what `json.loads` or
`canonical_bytes` raise. -/
inductive RedactionError where
  | failed
  | raised
  | canonical (error : CanonicalError)
  deriving DecidableEq

/-- How `json.loads` ends. -/
inductive Loaded where
  | value (value : Json)
  | decodeError
  | raised

/-- `json.loads`. -/
def loads (interpreter : Interpreter) (text : List Char) : Loaded :=
  match Grammar.decode interpreter.limits text with
  | some value => .value value
  | none =>
      if (Grammar.loads ⟨fun _ => true, text.length⟩ text).isSome then .raised else .decodeError

mutual

/-- A value with its floats as the encoder writes them. -/
def withFloats (interpreter : Interpreter) : Json → Option Json
  | .float literal => (interpreter.floatRepr literal).map Json.float
  | .arr items => (itemsWithFloats interpreter items).map Json.arr
  | .obj fields => (fieldsWithFloats interpreter fields).map Json.obj
  | value => some value

def itemsWithFloats (interpreter : Interpreter) : List Json → Option (List Json)
  | [] => some []
  | item :: rest => do
      let item ← withFloats interpreter item
      let rest ← itemsWithFloats interpreter rest
      return item :: rest

def fieldsWithFloats (interpreter : Interpreter) :
    List (String × Json) → Option (List (String × Json))
  | [] => some []
  | (key, value) :: rest => do
      let value ← withFloats interpreter value
      let rest ← fieldsWithFloats interpreter rest
      return (key, value) :: rest

end

/-- `json.dumps` with sorted keys and compact separators; it raises on a number that is not
finite. -/
def dumps (interpreter : Interpreter) (value : Json) : Option (List Char) :=
  (withFloats interpreter value).map encode

/-! ## Categories -/

/-- The categories of what is redacted, in the order of their names. -/
inductive Category where
  | cookie
  | credential
  | hiddenReasoning
  | hostAbsolutePath
  | token
  deriving DecidableEq

/-- The name of a category. -/
def Category.name : Category → String
  | cookie => "COOKIE"
  | credential => "CREDENTIAL"
  | hiddenReasoning => "HIDDEN_REASONING"
  | hostAbsolutePath => "HOST_ABSOLUTE_PATH"
  | token => "TOKEN"

/-- What stands for a redacted value. -/
def Category.marker (category : Category) : String := "[REDACTED:" ++ category.name ++ "]"

/-- `tuple(sorted(categories))`. -/
def sortedCategories (found : List Category) : List Category :=
  [.cookie, .credential, .hiddenReasoning, .hostAbsolutePath, .token].filter (· ∈ found)

/-- `RedactionResult`. -/
structure RedactionResult where
  data : List Char
  categories : List Category
  deriving DecidableEq

/-! ## Texts -/

/-- `value.replace(old, new)`. -/
def replaceAll (old new : String) (value : List Char) : List Char :=
  (literal old).sub (fun _ => new.toList) value

/-- The key of `_SAFE_SANDBOX_PATHS`. -/
def safePath : String := "/tmp/sastsimi-poc-candidate"

/-- The value of `_SAFE_SANDBOX_PATHS`. -/
def safePathMarker : String := "SASTSIMI_SAFE_POC_RUNTIME_PATH"

/-- `_protect_safe_sandbox_paths`. -/
def protectSafeSandboxPaths (value : List Char) : List Char :=
  replaceAll safePath safePathMarker value

/-- `_restore_safe_sandbox_paths`. -/
def restoreSafeSandboxPaths (value : List Char) : List Char :=
  replaceAll safePathMarker safePath value

/-- A line break, or the half of one. -/
def isBreak (character : Char) : Bool := character == '\r' || character == '\n'

/-- What replaces a match. -/
def replacement (preserveLines : Bool) (category : Category) (found : List Char) : List Char :=
  category.marker.toList ++ if preserveLines then found.filter isBreak else []

section Redaction

variable [Unicode]

/-- The patterns that are replaced, in this order. -/
def rules : List (Regex × Category) :=
  [(cookieAssignment, .cookie), (tokenAssignment, .token), (authorizationAssignment, .credential),
    (credentialAssignment, .credential), (envCredentialAssignment, .credential),
    (credentialUri, .credential), (opaqueToken, .token), (windowsPath, .hostAbsolutePath),
    (posixHostPath, .hostAbsolutePath)]

/-- Replace the matches of one pattern. -/
def applyRule (preserveLines : Bool) (state : List Char × List Category)
    (rule : Regex × Category) : List Char × List Category :=
  (rule.1.sub (replacement preserveLines rule.2) state.1,
    if rule.1.search state.1 then rule.2 :: state.2 else state.2)

/-- `_replace_string`. -/
def replaceString (preserveLines : Bool) (value : List Char) :
    Except RedactionError (List Char × List Category) :=
  if privateKey.search value = true ∨ privateKeyHeader.search value = true then
    if preserveLines then .error .failed
    else .ok (Category.credential.marker.toList, [.credential])
  else
    let (result, categories) :=
      rules.foldl (applyRule preserveLines) (protectSafeSandboxPaths value, [])
    .ok (restoreSafeSandboxPaths result, categories)

/-! ## Documents -/

/-- The value is one of some strings. -/
def isOneOf (allowed : List String) : Json → Bool
  | .str value => decide (value ∈ allowed)
  | _ => false

/-- A value is absent or a count. -/
def isCount : Json → Bool
  | .null => true
  | .int value => decide (0 ≤ value)
  | _ => false

/-- `_is_safe_typed_metadata`. -/
def isSafeTypedMetadata (key : String) (value : Json) : Bool :=
  if key = "credential_source" then
    isOneOf ["ENVIRONMENT", "SECRET_STORE", "OFFICIAL_CLIENT_SESSION"] value
  else if key = "token_usage" ∨ key = "session_metadata" then
    isOneOf ["SUPPORTED", "UNSUPPORTED", "UNVERIFIED"] value
  else if key = "token_source" then
    isOneOf ["PROVIDER_REPORTED", "ADAPTER_REPORTED", "UNAVAILABLE"] value
  else if key ∈ ["input_tokens", "output_tokens", "total_tokens"] then isCount value
  else false

/-- `value.lstrip().startswith(("{", "["))`. -/
def startsJson (value : List Char) : Bool :=
  ((value.dropWhile isSpace).head?.any fun first => first == '\x7b' || first == '[')

/-- What replaces the value of a key, if its name alone decides. -/
def hidesField (key : String) (value : Json) : Option Category :=
  if hiddenKey.fullMatch key.toList then some .hiddenReasoning
  else if secretKey.search key.toList = true ∧ isSafeTypedMetadata key value = false then
    some .credential
  else none

variable (interpreter : Interpreter)

/-- The text of a redacted document that stood in a string. -/
def encodeNested (value : Json) : Except RedactionError String :=
  match dumps interpreter value with
  | some encoded => .ok (String.ofList encoded)
  | none => .error .failed

/-- `_redact` of a string that is no document. -/
def redactPlain (value : String) : Except RedactionError (Json × List Category) :=
  (replaceString false value.toList).map fun (redacted, categories) =>
    (.str (String.ofList redacted), categories)

/-- `_redact` of a string, with what redacts a document that stands in it. -/
def redactText (nested : Json → Except RedactionError (Json × List Category)) (value : String) :
    Except RedactionError (Json × List Category) :=
  if startsJson value.toList then
    match loads interpreter value.toList with
    | .decodeError => redactPlain value
    | .raised => .error .raised
    | .value document =>
        match nested document with
        | .error error => .error error
        | .ok (_, []) => redactPlain value
        | .ok (redacted, first :: more) =>
            (encodeNested interpreter redacted).map fun encoded => (.str encoded, first :: more)
  else redactPlain value

mutual

/-- `_redact`, with what redacts a document that stands in a string; floats are kept only in such
documents. -/
def redactWith (floats : Bool) (nested : Json → Except RedactionError (Json × List Category)) :
    Json → Except RedactionError (Json × List Category)
  | .str value => redactText interpreter nested value
  | .float literal => if floats then .ok (.float literal, []) else .error .failed
  | .arr items => (redactItems floats nested items).map fun (items, found) => (.arr items, found)
  | .obj fields =>
      (redactFields floats nested fields).map fun (fields, found) => (.obj fields, found)
  | value => .ok (value, [])

def redactItems (floats : Bool) (nested : Json → Except RedactionError (Json × List Category)) :
    List Json → Except RedactionError (List Json × List Category)
  | [] => .ok ([], [])
  | item :: rest => do
      let (item, found) ← redactWith floats nested item
      let (rest, more) ← redactItems floats nested rest
      pure (item :: rest, found ++ more)

def redactFields (floats : Bool) (nested : Json → Except RedactionError (Json × List Category)) :
    List (String × Json) → Except RedactionError (List (String × Json) × List Category)
  | [] => .ok ([], [])
  | (key, value) :: rest =>
      match hidesField key value with
      | some category => do
          let (rest, more) ← redactFields floats nested rest
          pure ((key, .str category.marker) :: rest, category :: more)
      | none => do
          let (value, found) ← redactWith floats nested value
          let (rest, more) ← redactFields floats nested rest
          pure ((key, value) :: rest, found ++ more)

end

/-- `_redact` of a document in strings, with as many further levels as may stand in it. -/
def redactNested : Nat → Json → Except RedactionError (Json × List Category)
  | 0, _ => .error .failed
  | levels + 1, value => redactWith interpreter true (redactNested levels) value

/-- `_redact`; `_MAX_NESTED_JSON_DEPTH` levels of documents may stand in strings. -/
def redact (value : Json) : Except RedactionError (Json × List Category) :=
  redactWith interpreter false (redactNested interpreter 16) value

/-! ## Guard -/

/-- `re.fullmatch(r"[0-9a-f]*", text)`. -/
def isHex (text : List Char) : Bool :=
  text.all fun character =>
    character.isDigit || decide ('a' ≤ character ∧ character ≤ 'f')

/-- The text of a `UUID`: groups of hexadecimal digits. -/
def isUuid (text : List Char) : Bool :=
  let groups := text.splitOn '-'
  decide (groups.map List.length = [8, 4, 4, 4, 12]) && groups.all isHex

/-- The text of a symbolic reference to a credential. -/
def isSymbolicText (text : List Char) : Bool :=
  match text with
  | 'e' :: 'n' :: 'v' :: ':' :: first :: rest =>
      (first == '_' || first.isUpper) &&
        rest.all fun character => character == '_' || character.isUpper || character.isDigit
  | 'h' :: 'a' :: 'n' :: 'd' :: 'l' :: 'e' :: ':' :: identifier => isUuid identifier
  | _ => false

/-- `_is_symbolic_credential_reference`. -/
def isSymbolicCredentialReference : Json → Bool
  | .obj [("reference", .str value)] => isSymbolicText value.toList
  | .str value => isSymbolicText value.toList
  | _ => false

/-- `_is_reviewed_authorization_metadata`. -/
def isReviewedAuthorizationMetadata (key : String) (value : Json) : Bool :=
  match value with
  | .str value =>
      if key = "authorization_policy_sha256" then
        decide (value.toList.length = 64) && isHex value.toList
      else
        decide (key = "authorization_implementation_key"
          ∧ value = "RUNTIME_DYNAMIC_AUTHORIZATION_V1")
  | _ => false

/-- The value that a redacted credential leaves. -/
def isCredentialMarker : Json → Bool
  | .str value => decide (value = Category.credential.marker)
  | _ => false

/-- The value of a key does not give a credential away. -/
def isExcused (key : String) (value : Json) : Bool :=
  isCredentialMarker value
    || decide (key = "credential_ref") && isSymbolicCredentialReference value
    || isReviewedAuthorizationMetadata key value || isSafeTypedMetadata key value

/-- The patterns that the guard looks for. -/
def guarded : List Regex :=
  [opaqueToken, cookieAssignment, tokenAssignment, authorizationAssignment, credentialAssignment,
    credentialUri, privateKey, windowsPath, posixHostPath]

/-- A text that is no document has something that is guarded. -/
def isSensitivePlain (value : String) : Bool :=
  guarded.any fun pattern => pattern.search (protectSafeSandboxPaths value.toList)

/-- `_has_sensitive_string` of a string. -/
def hasSensitiveText (nested : Json → Except RedactionError Bool) (value : String) :
    Except RedactionError Bool :=
  if startsJson value.toList then
    match loads interpreter value.toList with
    | .decodeError => .ok (isSensitivePlain value)
    | .raised => .error .raised
    | .value document => nested document
  else .ok (isSensitivePlain value)

/-- `or`, the second part of which is computed only when it decides. -/
def orElse (first second : Except RedactionError Bool) : Except RedactionError Bool :=
  match first with
  | .ok false => second
  | other => other

mutual

/-- `_has_sensitive_string`, with what looks into a document that stands in a string. -/
def hasSensitiveWith (nested : Json → Except RedactionError Bool) :
    Json → Except RedactionError Bool
  | .str value => hasSensitiveText interpreter nested value
  | .arr items => hasSensitiveItems nested items
  | .obj fields => hasSensitiveFields nested fields
  | _ => .ok false

def hasSensitiveItems (nested : Json → Except RedactionError Bool) :
    List Json → Except RedactionError Bool
  | [] => .ok false
  | item :: rest => orElse (hasSensitiveWith nested item) (hasSensitiveItems nested rest)

def hasSensitiveFields (nested : Json → Except RedactionError Bool) :
    List (String × Json) → Except RedactionError Bool
  | [] => .ok false
  | (key, value) :: rest =>
      if secretKey.search key.toList = true ∧ isExcused key value = false then .ok true
      else orElse (hasSensitiveWith nested value) (hasSensitiveFields nested rest)

end

/-- `_has_sensitive_string` of a document in strings; one that is nested too deep counts as
sensitive. -/
def hasSensitiveNested : Nat → Json → Except RedactionError Bool
  | 0, _ => .ok true
  | levels + 1, value => hasSensitiveWith interpreter (hasSensitiveNested levels) value

/-- `_has_sensitive_string`. -/
def hasSensitiveString (value : Json) : Except RedactionError Bool :=
  hasSensitiveWith interpreter (hasSensitiveNested interpreter 16) value

/-- Fail when something sensitive is left. -/
def refuseSensitive (sensitive : Except RedactionError Bool) : Except RedactionError Unit := do
  raiseIf ((← sensitive) = true) .failed

/-! ## Entry points -/

/-- `canonical_bytes`, without a set-list policy. -/
def canonical (value : Json) : Except RedactionError (List Char) :=
  (canonicalBytes (fun _ => none) value).mapError .canonical

/-- The document of a text. -/
def document (data : List Char) : Except RedactionError Json :=
  match loads interpreter data with
  | .value value => .ok value
  | .decodeError => .error .failed
  | .raised => .error .raised

/-- `redact_projected_json`. -/
def redactProjectedJson (data : List Char) : Except RedactionError RedactionResult := do
  let value ← document interpreter data
  let (redacted, categories) ← redact interpreter value
  let encoded ← canonical redacted
  refuseSensitive (hasSensitiveString interpreter redacted)
  pure ⟨encoded, sortedCategories categories⟩

/-- `_has_sensitive_string` of a text, as a value. -/
def hasSensitiveData (data : List Char) : Except RedactionError Bool :=
  hasSensitiveString interpreter (.str (String.ofList data))

/-- `redact_untrusted_text`, of a text that was decoded. -/
def redactUntrustedText (value : List Char) : Except RedactionError RedactionResult := do
  let (redacted, categories) ← replaceString false value
  refuseSensitive (hasSensitiveData interpreter redacted)
  pure ⟨redacted, sortedCategories categories⟩

/-- `redact_untrusted_text_preserving_lines`. -/
def redactUntrustedTextPreservingLines (value : List Char) :
    Except RedactionError RedactionResult := do
  let (redacted, categories) ← replaceString true value
  raiseIf (value.count '\r' ≠ redacted.count '\r') .failed
  raiseIf (value.count '\n' ≠ redacted.count '\n') .failed
  let (again, _) ← replaceString false redacted
  raiseIf (again ≠ redacted) .failed
  refuseSensitive (hasSensitiveData interpreter redacted)
  pure ⟨redacted, sortedCategories categories⟩

/-- `assert_safe_provider_text`. -/
def assertSafeProviderText (value : List Char) : Except RedactionError Unit := do
  let (redacted, categories) ← replaceString false value
  raiseIf (categories ≠ []) .failed
  raiseIf (redacted ≠ value) .failed
  refuseSensitive (hasSensitiveData interpreter value)

/-! ## Prompts -/

/-- A binding of a prompt, once its document is redacted. -/
def renderedBinding (sha256 : List Char → String) (binding : String × List Char) :
    Except RedactionError Json := do
  let redacted ← redactProjectedJson interpreter binding.2
  let data ← document interpreter redacted.data
  pure (.obj
    [("slot", .str binding.1), ("trust_class", .str "UNTRUSTED_DATA"),
      ("sha256", .str (sha256 redacted.data)), ("data", data)])

/-- `replace(b"<", b"\\u003c").replace(b">", b"\\u003e")`. -/
def escapeAngles (text : List Char) : List Char :=
  replaceAll ">" "\\u003e" (replaceAll "<" "\\u003c" text)

/-- The rendered bindings between their delimiters. -/
def dataBlock (body : List Char) : List Char :=
  "\n<UNTRUSTED_DATA>\n".toList ++ body ++ "\n</UNTRUSTED_DATA>\n".toList

/-- `render_provider_prompt`. -/
def renderProviderPrompt (sha256 : List Char → String) (template : List Char)
    (bindings : List (String × List Char)) : Except RedactionError (List Char) := do
  assertSafeProviderText interpreter template
  let rendered ← bindings.mapM (renderedBinding interpreter sha256)
  let encoded ← canonical (.obj [("bindings", .arr rendered)])
  let prompt := template ++ dataBlock (escapeAngles encoded)
  assertSafeProviderText interpreter prompt
  pure prompt

end Redaction

end Sastsimi.Contracts
