import Sastsimi.Lib.Regex
import Sastsimi.Runtime.Catalogue

/-!
# Patterns of the redaction

The patterns of `prompt_redaction`.  The letters of a pattern that ignores case match the four
letters of other scripts that `re` folds to them.  Which characters above ASCII are word characters
is a parameter.
-/

namespace Sastsimi.Contracts

open Sastsimi.Lib Sastsimi.Runtime Regex

/-! ## Characters -/

/-- `str.isalnum` of the characters above ASCII. -/
class Unicode where
  isAlnum : Char → Bool

section Characters

variable [Unicode]

/-- `\w`. -/
def isWord (character : Char) : Bool :=
  if character.toNat < 128 then character.isAlphanum || character == '_'
  else Unicode.isAlnum character

/-- `\b`. -/
def edge : Regex := boundary isWord

/-- `(?<![\w])`. -/
def notBehindWord : Regex := behind fun before => !before.any isWord

/-- `(?<![\w/])`. -/
def notBehindPath : Regex := behind fun before => !before.any fun last => isWord last || last == '/'

end Characters

/-- `\s`. -/
def space : Regex := one isSpace

/-- A letter that stands for its uppercase form and for the letters that are folded to it. -/
def folds (letter character : Char) : Bool :=
  character.toLower == letter ||
    letter == 'i' && (character == 'ı' || character == 'İ') ||
    letter == 's' && character == 'ſ' ||
    letter == 'k' && character == 'K'

/-- The letters of a text without regard to case. -/
def text (letters : String) : Regex := all (letters.toList.map fun letter => one (folds letter))

/-- `[A-Z]` without regard to case. -/
def isLetter (character : Char) : Bool :=
  character.isAlpha || character == 'ı' || character == 'İ' || character == 'ſ' || character == 'K'

/-- `[A-Z0-9]` without regard to case, and the other characters of a class. -/
def lettersAnd (others : String) : Regex :=
  one fun character =>
    isLetter character || character.isDigit || others.toList.contains character

def texts (alternatives : List String) : Regex := any (alternatives.map text)

/-- `[_-]?`. -/
def joint : Regex := opt (oneOf "_-")

/-- Two words that may be joined. -/
def joined (first second : String) : Regex := all [text first, joint, text second]

/-- `[^\s,;]+`. -/
def unspaced : Regex := plus (one fun character => !(isSpace character || character == ',' || character == ';'))

/-- `\s*[:=]\s*`. -/
def assigns : Regex := all [star true space, oneOf ":=", star true space]

/-- `"[^"\r\n]*"` or `'[^'\r\n]*'`. -/
def quotedPart : Regex :=
  alt (all [literal "\"", star true (noneOf "\"\r\n"), literal "\""])
    (all [literal "'", star true (noneOf "'\r\n"), literal "'"])

section Patterns

variable [Unicode]

/-! ## Names -/

/-- `_SECRET_KEY`. -/
def secretKey : Regex :=
  any [joined "api" "key", text "authorization", all [edge, text "auth", edge], text "bearer",
    text "cookie", text "password", text "passwd", text "pwd", text "secret", text "token",
    text "session", text "credential", joined "private" "key", joined "access" "key",
    all [text "database", joint, texts ["url", "uri"]],
    all [text "connection", joint, texts ["url", "uri", "string"]], text "dsn"]

/-- `_HIDDEN_KEY`. -/
def hiddenKey : Regex :=
  alt (all [text "chain", joint, text "of", joint, text "thought"]) (joined "hidden" "reasoning")

/-! ## Values -/

/-- `_OPAQUE_TOKEN`. -/
def opaqueToken : Regex :=
  any [
    all [edge, texts ["bearer", "basic"],
      plus (alt space (all [plus (literal "\\"),
        alt (all [text "u00", texts ["09", "0a", "0d", "20"]]) (texts ["t", "n", "r"])])),
      unspaced],
    all [edge, text "sk-", atLeast 8 (lettersAnd "_-")],
    all [edge, text "eyj", atLeast 8 (lettersAnd "_-"), literal ".", atLeast 4 (lettersAnd "_-"),
      literal ".", atLeast 4 (lettersAnd "_-")],
    all [edge, alt (all [text "gh", texts ["p", "o", "u", "s", "r"], literal "_"])
      (text "github_pat_"), atLeast 8 (lettersAnd "_")],
    all [edge, text "glpat-", atLeast 8 (lettersAnd "_-")],
    all [edge, text "xox", star true (lettersAnd ""), literal "-", atLeast 8 (lettersAnd "-")],
    all [edge, texts ["akia", "asia"], atLeast 12 (lettersAnd "")]]

/-- Further quoted parts of a value. -/
def moreParts : Regex :=
  star true (all [star true (oneOf " \t"),
    opt (all [literal "+", star true (oneOf " \t")]), quotedPart])

/-- `_TOKEN_OR_COOKIE_VALUE`. -/
def tokenOrCookieValue : Regex :=
  any [all [texts ["bearer", "basic"], plus space, unspaced, moreParts],
    all [quotedPart, moreParts], unspaced]

/-- `_COOKIE_ASSIGNMENT`. -/
def cookieAssignment : Regex :=
  all [edge, any [all [text "cookie", opt (text "s")],
    all [text "session", joint, text "id", opt (text "s")], text "sessionid"], edge, assigns,
    tokenOrCookieValue]

/-- `_TOKEN_ASSIGNMENT`. -/
def tokenAssignment : Regex :=
  all [edge, any [all [joined "access" "token", opt (text "s")],
    all [joined "refresh" "token", opt (text "s")], all [text "token", opt (text "s")]], edge,
    assigns, tokenOrCookieValue]

/-- `[A-Za-z_][A-Za-z0-9_]*`. -/
def identifier : Regex :=
  seq (one fun character => isLetter character || character == '_') (star true (lettersAnd "_"))

/-- `_AUTHORIZATION_CODE_VALUE`. -/
def authorizationCodeValue : Regex :=
  all [identifier, star true (all [literal ".", identifier]),
    ahead (all [star true (oneOf " \t"),
      alt (oneOf ";)\x7d]")
        (all [literal ",", star true (oneOf " \t"),
          alt (all [quotedPart, star true (oneOf " \t"), literal ":"])
            (all [identifier, star true (oneOf " \t"), literal "="])])])]

/-- A string between two of a quote, with escapes. -/
def quotedString (quote : String) : Regex :=
  all [literal quote,
    star true (alt (all [literal "\\", noneOf "\n"]) (noneOf (quote ++ "\\\r\n"))), literal quote]

/-- `_AUTHORIZATION_ASSIGNMENT`. -/
def authorizationAssignment : Regex :=
  all [edge, opt (all [identifier, literal "_"]), text "authorization", edge, opt (oneOf "\"'"),
    star true (oneOf " \t"), oneOf ":=", star true (oneOf " \t"),
    any [
      all [opt (texts ["fr", "rf", "br", "rb", "f", "r", "b", "u"]),
        alt (quotedString "\"") (quotedString "'"),
        ahead (all [star true (oneOf " \t"), any [literal ";", oneOf ",\x7d]", atEnd]])],
      authorizationCodeValue,
      all [plus (noneOf "\r\n"), star true (all [opt (literal "\r"), literal "\n",
        alt (plus (oneOf " \t")) (ahead (oneOf "\"'")), plus (noneOf "\r\n")])]]]

/-- The names of credentials. -/
def credentialNames : Regex :=
  any [all [joined "api" "key", opt (text "s")], all [joined "client" "secret", opt (text "s")],
    all [text "password", opt (text "s")], text "passwd", text "pwd",
    all [text "secret", opt (text "s")], text "authorization", text "auth",
    all [text "credential", opt (text "s")], all [joined "private" "key", opt (text "s")],
    all [text "database", joint, texts ["url", "uri"]],
    all [text "connection", joint, texts ["url", "uri", "string"]], text "dsn"]

/-- `_CREDENTIAL_ASSIGNMENT`. -/
def credentialAssignment : Regex :=
  all [edge, credentialNames, edge, assigns,
    any [quotedPart, all [texts ["bearer", "basic"], plus space, unspaced], unspaced]]

/-- `_ENV_CREDENTIAL_ASSIGNMENT`. -/
def envCredentialAssignment : Regex :=
  all [edge, identifier,
    any [joined "api" "key", text "secret", text "token", text "password", text "passwd",
      text "pwd", text "credential", joined "private" "key", joined "access" "key"],
    star true (lettersAnd "_"), edge, assigns, alt quotedPart unspaced]

/-- `_CREDENTIAL_URI`. -/
def credentialUri : Regex :=
  all [edge, one isLetter, star true (lettersAnd "+.-"), literal "://",
    plus (one fun character => !(isSpace character || ":/?#".toList.contains character)),
    literal ":",
    plus (one fun character => !(isSpace character || "@/".toList.contains character)),
    literal "@",
    plus (one fun character => !(isSpace character || ",;\"'".toList.contains character))]

/-- `_PRIVATE_KEY_HEADER`. -/
def privateKeyHeader : Regex :=
  all [text "-----begin", opt (all [literal " ", plus (lettersAnd "")]), text " private key-----"]

/-- `_PRIVATE_KEY`. -/
def privateKey : Regex :=
  all [privateKeyHeader, star false (one fun _ => true), text "-----end",
    opt (all [literal " ", plus (lettersAnd "")]), text " private key-----"]

/-! ## Paths -/

/-- `[^\r\n,;"'<>]`. -/
def inHostPath : Regex := noneOf "\r\n,;\"'<>"

/-- `_WINDOWS_PATH`. -/
def windowsPath : Regex :=
  all [notBehindWord,
    alt (all [one isLetter, literal ":", oneOf "\\/"])
      (all [atLeast 2 (literal "\\"), notAhead (oneOf "\\\"")]),
    plus inHostPath]

/-- `_POSIX_HOST_PATH`. -/
def posixHostPath : Regex :=
  all [notBehindPath, literal "/",
    any (["root", "home", "Users", "tmp", "etc", "var", "opt", "srv", "usr", "private"].map literal),
    alt (literal "/") edge, star true inHostPath]

/-- `[^\s\r\n,;"'<>]`. -/
def isPathPart (character : Char) : Bool :=
  !(isSpace character || ",;\"'<>".toList.contains character)

/-- `_POC_SANDBOX_ABSOLUTE_PATH`. -/
def pocSandboxAbsolutePath : Regex :=
  all [notBehindPath, literal "/",
    any (["workspace", "tmp", "etc", "var", "opt", "srv", "usr"].map literal),
    alt (literal "/") edge, star true (one isPathPart)]

end Patterns

end Sastsimi.Contracts
