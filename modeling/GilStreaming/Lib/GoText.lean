import Mathlib.Data.List.DropRight

/-!
# GilStreaming.Lib.GoText

The parts of Go's `strings` and `net` packages that a program needs to compare host
names and addresses, on lists of characters.

`parseIP` follows `netip.ParseAddr`, on which `net.ParseIP` is built: four decimal
fields without leading zeros, or up to eight hexadecimal groups with at most one
`::` and possibly four decimal fields at the end. Only whether an address parses is
modelled, not its bytes. A zone (`%eth0`) never parses, since `net.ParseIP` rejects
it.
-/

namespace GilStreaming

/-! ### `strings` -/

/-- `unicode.IsSpace`. -/
def isSpace (c : Char) : Bool :=
  c ∈ ['\t', '\n', '\x0b', '\x0c', '\r', ' ', '\u0085', '\u00a0', '\u1680', '\u2028', '\u2029',
    '\u202f', '\u205f', '\u3000'] || ('\u2000' ≤ c && c ≤ '\u200a')

/-- `strings.TrimSpace`. -/
def trimSpace (s : List Char) : List Char := (s.dropWhile isSpace).rdropWhile isSpace

/-- The text neither starts nor ends with a space. -/
def Trimmed (s : List Char) : Prop :=
  (∀ c, s.head? = some c → isSpace c = false) ∧ ∀ c, s.getLast? = some c → isSpace c = false

/-- Trimming removes what is around a trimmed text. -/
theorem trimSpace_append {before s after : List Char} (hbefore : ∀ c ∈ before, isSpace c = true)
    (hs : Trimmed s) (hafter : ∀ c ∈ after, isSpace c = true) :
    trimSpace (before ++ s ++ after) = s := by
  rw [trimSpace, List.append_assoc, List.dropWhile_append_of_pos hbefore]
  cases s with
  | nil =>
      rw [List.nil_append, List.dropWhile_eq_nil_iff.mpr hafter]
      rfl
  | cons c s =>
      have hhead : isSpace c = false := hs.1 c rfl
      rw [List.cons_append, List.dropWhile_cons_of_neg (by simp [hhead]), ← List.cons_append,
        List.rdropWhile, List.reverse_append,
        List.dropWhile_append_of_pos fun d hd => hafter d (List.mem_reverse.mp hd)]
      show List.rdropWhile isSpace (c :: s) = c :: s
      rw [List.rdropWhile_eq_self_iff]
      intro hne
      rw [hs.2 _ (List.getLast?_eq_some_getLast hne)]
      exact Bool.false_ne_true

theorem trimSpace_eq_self {s : List Char} (hs : Trimmed s) : trimSpace s = s := by
  have h := @trimSpace_append [] s [] (by simp) hs (by simp)
  simpa using h

/-- `strings.TrimSuffix`. -/
def trimSuffix (s suffix : List Char) : List Char :=
  if suffix.isSuffixOf s then s.take (s.length - suffix.length) else s

/-! ### `net` -/

/-- One decimal field of an IPv4 address. -/
def isOctet (field : List Char) : Bool :=
  !field.isEmpty && field.all Char.isDigit && (field.length = 1 || field.head? != some '0') &&
    decide (field.foldl (fun value c => value * 10 + (c.toNat - '0'.toNat)) 0 ≤ 255)

/-- `netip.parseIPv4Fields`. -/
def isIPv4 (s : List Char) : Bool :=
  let fields := s.splitOn '.'
  fields.length = 4 && fields.all isOctet

def isHexDigit (c : Char) : Bool :=
  c.isDigit || ('a' ≤ c && c ≤ 'f') || ('A' ≤ c && c ≤ 'F')

/-- The last test of `netip.parseIPv6`: an ellipsis stands for the missing groups, and
for at least one. -/
def ellipsisFits (ellipsis : Bool) (groups : Nat) : Bool :=
  if groups < 8 then ellipsis else !ellipsis

/-- The loop of `netip.parseIPv6`, with `left` groups still to come and `8 - left`
seen. -/
def isIPv6Groups : Nat → Bool → List Char → Bool
  | 0, _, _ => false
  | left + 1, ellipsis, s =>
    let digits := s.takeWhile isHexDigit
    let seen := 8 - (left + 1)
    if digits.isEmpty || digits.length > 4 then false
    else
      match s.dropWhile isHexDigit with
      | [] => ellipsisFits ellipsis (seen + 1)
      | '.' :: _ =>
        (ellipsis || seen = 6) && decide (seen + 2 ≤ 8) && isIPv4 s &&
          ellipsisFits ellipsis (seen + 2)
      | [':'] => false
      | [':', ':'] => !ellipsis && ellipsisFits true (seen + 1)
      | ':' :: ':' :: more => !ellipsis && isIPv6Groups left true more
      | ':' :: more => isIPv6Groups left ellipsis more
      | _ => false

/-- `netip.parseIPv6` without a zone. -/
def isIPv6 (s : List Char) : Bool :=
  match s with
  | [':', ':'] => true
  | ':' :: ':' :: more => isIPv6Groups 8 true more
  | _ => isIPv6Groups 8 false s

/-- `net.ParseIP(s) != nil`: the first `.`, `:` or `%` decides what is parsed. -/
def parseIP (s : String) : Bool :=
  match s.toList.find? fun c => c ∈ ['.', ':', '%'] with
  | some '.' => isIPv4 s.toList
  | some ':' => !s.toList.contains '%' && isIPv6 s.toList
  | _ => false

theorem parseIP_ne_empty {s : String} (h : parseIP s = true) : s ≠ "" := by
  rintro rfl
  exact absurd h (by decide)

example : ["10.0.0.5", "::1", "fe80::1:2", "::ffff:10.0.0.5", "1:2:3:4:5:6:7:8"].all parseIP := by
  decide

example : ["10.0.0", "10.0.0.05", "10.0.0.256", "1::2::3", "fe80::1%eth0", "v1"].all
    fun s => !parseIP s := by
  decide

/-- `net.JoinHostPort`. -/
def joinHostPort (host port : String) : String :=
  if host.toList.contains ':' then "[" ++ host ++ "]:" ++ port else host ++ ":" ++ port

end GilStreaming
