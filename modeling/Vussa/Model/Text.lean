import Vussa.Model.Types
import Mathlib.Data.String.Basic
import Mathlib.Data.List.Sort

/-!
The text functions of the backend: `normalize_channel_name` (`api/channels.rs`), `normalize_emoji`
(`websocket/history.rs`), `mention_scope` and `extract_mentioned_usernames`
(`api/notifications.rs`) and `validate_username` (`api/account.rs`), over the character functions
of Rust's standard library.

White space and control characters are the lists of the Unicode standard. The alphanumeric
characters and the lower case are large tables: they are parameters, collected in `Unicode`, and
`Unicode.ascii` is their restriction to ASCII text.
-/

namespace Vussa

/-! ### Characters and strings -/

/-- `char::is_whitespace`: the property `White_Space`. -/
def isWhitespace (c : Char) : Bool :=
  let n := c.toNat
  (9 ≤ n && n ≤ 13) || n == 0x20 || n == 0x85 || n == 0xA0 || n == 0x1680 ||
    (0x2000 ≤ n && n ≤ 0x200A) || n == 0x2028 || n == 0x2029 || n == 0x202F || n == 0x205F ||
    n == 0x3000

/-- `char::is_control`: the general category `Cc`. -/
def isControl (c : Char) : Bool :=
  let n := c.toNat
  n < 0x20 || (0x7F ≤ n && n ≤ 0x9F)

/-- `char::is_ascii_alphanumeric`. -/
def isAsciiAlphanumeric (c : Char) : Bool :=
  let n := c.toNat
  (0x30 ≤ n && n ≤ 0x39) || (0x41 ≤ n && n ≤ 0x5A) || (0x61 ≤ n && n ≤ 0x7A)

/-- The tables of `char::is_alphanumeric` and `str::to_lowercase`. -/
structure Unicode where
  isAlphanumeric : Char → Bool
  toLowercase : String → String

/-- Both tables on ASCII text. -/
def Unicode.ascii : Unicode where
  isAlphanumeric := isAsciiAlphanumeric
  toLowercase s := s.map Char.toLower

/-- `str::trim_matches`. -/
def trimMatches (p : Char → Bool) (s : String) : String :=
  String.ofList ((s.toList.dropWhile p).reverse.dropWhile p).reverse

/-- `str::trim`. -/
def trim (s : String) : String := trimMatches isWhitespace s

/-- `str::split_whitespace`. -/
def splitWhitespace (s : String) : List String :=
  ((s.toList.splitOnP isWhitespace).filter fun token => token ≠ []).map String.ofList

/-- `str::strip_prefix` with `'@'`. -/
def stripAt (s : String) : Option String :=
  match s.toList with
  | '@' :: rest => some (String.ofList rest)
  | _ => none

/-! ### Names, emoji and mentions -/

/-- `normalize_channel_name`. -/
def normalizeChannelName (U : Unicode) (raw : String) : Except AppError String :=
  let name := trim raw
  if name = "" ∨ 40 < name.utf8ByteSize then
    .error (.badRequest "channel name must be 1–40 characters")
  else if name = mainChannel ∨
      ¬ name.toList.all (fun c => U.isAlphanumeric c || c == '-' || c == '_') then
    .error (.badRequest "channel name may contain only letters, numbers, '-' and '_'")
  else .ok (U.toLowercase name)

example : normalizeChannelName .ascii "  Team-Room  " = .ok "team-room" := by decide +kernel

/-- The name in a `JoinChannel` or `LoadHistory` event: `normalize_channel_name`, or `main`. -/
def requestedChannel (U : Unicode) (raw : String) : Except AppError String :=
  match normalizeChannelName U raw with
  | .ok name => .ok name
  | .error _ => if raw = mainChannel then .ok mainChannel else .error (.badRequest "invalid channel")

/-- `normalize_emoji`. -/
def normalizeEmoji (raw : String) : Except AppError String :=
  let emoji := trim raw
  if emoji = "" ∨ 64 < emoji.utf8ByteSize ∨ emoji.toList.any isControl then
    .error (.badRequest "emoji must be 1–64 printable characters")
  else .ok emoji

/-- A mentioned name, with the characters around it trimmed. -/
def mentionToken (token : String) : Option String :=
  (stripAt token).map (trimMatches fun c => !isAsciiAlphanumeric c && c != '_' && c != '-')

/-- `mention_scope`. -/
def mentionScope (U : Unicode) (text : String) : Option MentionScope :=
  (splitWhitespace text).findSome? fun token =>
    match (mentionToken token).map U.toLowercase with
    | some "channel" => some .channel
    | some "here" => some .here
    | _ => none

/-- `extract_mentioned_usernames`: the names in the order of the `BTreeSet`. -/
def extractMentionedUsernames (U : Unicode) (text actorUsername : String) : List String :=
  let names := (splitWhitespace text).filterMap fun token =>
    match mentionToken token with
    | some username =>
        if username ≠ "" ∧ username.utf8ByteSize ≤ 64 ∧ username ≠ "channel" ∧
            username ≠ "here" ∧ U.toLowercase username ≠ U.toLowercase actorUsername then
          some (U.toLowercase username)
        else none
    | none => none
  names.dedup.insertionSort (· ≤ ·)

example : extractMentionedUsernames .ascii "hello @channel @here @Alice" "author" = ["alice"] := by
  decide +kernel

/-- The text of a message: trimmed, and of one to two thousand bytes. -/
def messageText (raw : String) : Except AppError String :=
  let text := trim raw
  if text = "" ∨ 2000 < text.utf8ByteSize then
    .error (.badRequest "message must be 1–2000 characters")
  else .ok text

/-- The reserved names of `validate_username`. -/
def reservedUsernames : List String :=
  ["admin", "system", "here", "channel", "everyone", "administrator", "moderator"]

/-- `validate_username`. -/
def validateUsername (U : Unicode) (username : String) : Except AppError Unit :=
  if username.utf8ByteSize < 2 ∨ 40 < username.utf8ByteSize ∨
      ¬ username.toList.all (fun c => U.isAlphanumeric c || c == '_' || c == '-') then
    .error (.badRequest "invalid username")
  else if U.toLowercase username ∈ reservedUsernames then
    .error (.badRequest "username is reserved")
  else .ok ⟨⟩

/-! ### Identifiers as text -/

/-- The digits of a number in base sixteen, `n` of them. -/
def hexDigits : ℕ → ℕ → List Char
  | 0, _ => []
  | n + 1, v => hexDigits n (v / 16) ++ [Nat.digitChar (v % 16)]

/-- `Uuid::to_string`: lower-case digits in groups of eight, four, four, four and twelve. -/
def Uuid.toText (id : Uuid) : String :=
  let digits := hexDigits 32 id
  String.ofList (digits.take 8 ++ ['-'] ++ (digits.drop 8).take 4 ++ ['-'] ++
    (digits.drop 12).take 4 ++ ['-'] ++ (digits.drop 16).take 4 ++ ['-'] ++ digits.drop 20)

end Vussa
