import Mathlib.Data.List.Infix
import GilStreaming.Lib.GoText

/-!
# GilStreaming.Lib.GoSplit

Texts that are cut at a character: `strings.Cut` and `strings.SplitN`, the lines of a
`bufio.Scanner`, and `net.SplitHostPort`, on lists of characters.

`splitHostPort` cuts at the last colon. A host in brackets may have colons of its own, so
`HostForm` says what a host looks like in an address, and `splitHostPort_ok_iff` says that
the function reads back exactly the addresses that are written so.
-/

namespace GilStreaming

/-! ### Cutting -/

/-- `strings.Cut` at one character: the text before the first of them and the text behind
it. -/
def cut (c : Char) : List Char → Option (List Char × List Char)
  | [] => none
  | d :: s => if d = c then some ([], s) else (cut c s).map fun (before, after) =>
      (d :: before, after)

/-- The text before the last `c`, and the text behind it. -/
def cutLast (c : Char) (s : List Char) : Option (List Char × List Char) :=
  (cut c s.reverse).map fun (after, before) => (before.reverse, after.reverse)

/-- `strings.SplitN` with at most two parts. -/
def splitTwo (c : Char) (s : List Char) : List (List Char) :=
  match cut c s with
  | none => [s]
  | some (before, after) => [before, after]

/-- `strings.TrimPrefix`. -/
def trimPrefix (s start : List Char) : List Char :=
  if start.isPrefixOf s then s.drop start.length else s

/-- `strings.Contains`. -/
def contains (s part : List Char) : Bool := s.tails.any part.isPrefixOf

theorem contains_eq_true {s part : List Char} : contains s part = true ↔ part <:+: s := by
  simp only [contains, List.any_eq_true, List.isPrefixOf_iff_prefix, List.mem_tails,
    List.infix_iff_prefix_suffix, and_comm]

variable {c : Char} {s before after : List Char}

theorem cut_eq_some :
    cut c s = some (before, after) ↔ s = before ++ c :: after ∧ c ∉ before := by
  induction s generalizing before with
  | nil => simp [cut]
  | cons d s ih =>
      rw [cut]
      split
      · next hd =>
          subst hd
          cases before with
          | nil => simp [eq_comm]
          | cons e before =>
              simp only [List.cons_append, List.cons.injEq, List.mem_cons, Option.some.injEq,
                Prod.mk.injEq]
              grind
      · next hd =>
          cases before with
          | nil => simp [hd]
          | cons e before =>
              simp only [Option.map_eq_some_iff, Prod.exists, Prod.mk.injEq, List.cons.injEq]
              constructor
              · rintro ⟨before, after, hcut, ⟨rfl, rfl⟩, rfl⟩
                obtain ⟨rfl, hc⟩ := ih.mp hcut
                exact ⟨rfl, by simp [hc, Ne.symm hd]⟩
              · rintro ⟨hs, hc⟩
                obtain ⟨rfl, rfl⟩ := List.cons.inj hs
                exact ⟨before, after, ih.mpr ⟨rfl, fun h => hc (by simp [h])⟩, ⟨rfl, rfl⟩, rfl⟩

theorem cut_eq_none : cut c s = none ↔ c ∉ s := by
  induction s with
  | nil => simp [cut]
  | cons d s ih =>
      rw [cut]
      split
      · next hd => simp [hd]
      · next hd => simp [ih, Ne.symm hd]

theorem cutLast_eq_some :
    cutLast c s = some (before, after) ↔ s = before ++ c :: after ∧ c ∉ after := by
  rw [cutLast]
  simp only [Option.map_eq_some_iff, Prod.exists, Prod.mk.injEq]
  constructor
  · rintro ⟨after, before, hcut, rfl, rfl⟩
    obtain ⟨hs, hc⟩ := cut_eq_some.mp hcut
    exact ⟨by rw [← List.reverse_reverse s, hs]; simp, by simpa using hc⟩
  · rintro ⟨rfl, hc⟩
    exact ⟨after.reverse, before.reverse, cut_eq_some.mpr ⟨by simp, by simpa using hc⟩,
      by simp, by simp⟩

/-- The first part of a text that is split in two. -/
theorem head_splitTwo_of_not_mem (h : c ∉ before) (tail : List Char)
    (htail : tail = [] ∨ tail.head? = some c) :
    (splitTwo c (before ++ tail)).headD [] = before := by
  rcases htail with rfl | htail
  · rw [splitTwo, List.append_nil, cut_eq_none.mpr h]
    rfl
  · obtain ⟨after, rfl⟩ := List.head?_eq_some_iff.mp htail
    rw [splitTwo, cut_eq_some.mpr ⟨rfl, h⟩]
    rfl

/-- A text is the first part of it and a rest that is empty or starts with `c`. -/
theorem exists_head_splitTwo (c : Char) (s : List Char) :
    ∃ before tail, s = before ++ tail ∧ c ∉ before ∧ (tail = [] ∨ tail.head? = some c) ∧
      (splitTwo c s).headD [] = before := by
  cases hcut : cut c s with
  | none =>
      exact ⟨s, [], by simp, cut_eq_none.mp hcut, .inl rfl, by rw [splitTwo, hcut]; rfl⟩
  | some parts =>
      obtain ⟨hs, hc⟩ := cut_eq_some.mp hcut
      exact ⟨parts.1, c :: parts.2, hs, hc, .inr rfl, by rw [splitTwo, hcut]; rfl⟩

theorem infix_intercalate {sep part : List Char} {parts : List (List Char)} (h : part ∈ parts) :
    part <:+: sep.intercalate parts := by
  induction parts with
  | nil => exact absurd h (by simp)
  | cons first rest ih =>
      cases rest with
      | nil =>
          obtain rfl := List.mem_singleton.mp h
          simp
      | cons second rest =>
          rw [List.intercalate_cons_cons]
          rcases List.mem_cons.mp h with rfl | h
          · exact ⟨[], sep ++ sep.intercalate (second :: rest), by simp⟩
          · exact (ih h).trans (List.suffix_append _ _).isInfix

/-- Each part of a text stands in it. -/
theorem infix_of_mem_splitOn {part : List Char} (h : part ∈ s.splitOn c) : part <:+: s := by
  have hpart : part <:+: [c].intercalate (s.splitOn c) := infix_intercalate h
  rwa [List.intercalate_splitOn] at hpart

/-! ### `bufio.Scanner` -/

/-- `bufio.MaxScanTokenSize`. -/
def maxScanTokenSize : Nat := 65536

/-- `len` of a text. -/
def byteLength (s : List Char) : Nat := s.foldr (fun c n => c.utf8Size + n) 0

/-- The lines that `bufio.ScanLines` finds, each with its carriage return: what is behind
the last line break is a line if it is not empty. -/
def rawLines (s : List Char) : List (List Char) :=
  let parts := s.splitOn '\n'
  if parts.getLast? = some [] then parts.dropLast else parts

/-- `bufio.dropCR`. -/
def dropCR (line : List Char) : List Char :=
  if line.getLast? = some '\r' then line.dropLast else line

/-- The buffer of a `bufio.Scanner` has no room for the line and its line break. -/
def tooLong (line : List Char) : Bool := decide (maxScanTokenSize ≤ byteLength line)

/-! ### `net.SplitHostPort` -/

/-- `net.SplitHostPort`. An error carries the `Err` of its `AddrError`. -/
def splitHostPort (hostport : List Char) : Except String (List Char × List Char) :=
  match cutLast ':' hostport with
  | none => .error "missing port in address"
  | some (before, port) =>
    match hostport with
    | '[' :: inside =>
      match cut ']' inside with
      | none => .error "missing ']' in address"
      | some (_, []) => .error "missing port in address"
      | some (host, c :: behind) =>
        -- The first `]` is just before the last colon.
        if c :: behind = ':' :: port then
          if '[' ∈ inside then .error "unexpected '[' in address"
          else if ']' ∈ c :: behind then .error "unexpected ']' in address"
          else .ok (host, port)
        else if c = ':' then .error "too many colons in address"
        else .error "missing port in address"
    | _ =>
      if ':' ∈ before then .error "too many colons in address"
      else if '[' ∈ hostport then .error "unexpected '[' in address"
      else if ']' ∈ hostport then .error "unexpected ']' in address"
      else .ok (before, port)

/-- A text without colons and brackets. -/
def Unbracketed (s : List Char) : Prop := ':' ∉ s ∧ '[' ∉ s ∧ ']' ∉ s

/-- How a host stands before the colon of an address: as it is, or in brackets. -/
def HostForm (bracketed : Bool) (host form : List Char) : Prop :=
  if bracketed then '[' ∉ host ∧ ']' ∉ host ∧ form = '[' :: (host ++ [']'])
  else Unbracketed host ∧ form = host

theorem splitHostPort_bracketed {host port : List Char} (hopen : '[' ∉ host)
    (hclose : ']' ∉ host) (hport : Unbracketed port) :
    splitHostPort ('[' :: (host ++ [']']) ++ ':' :: port) = .ok (host, port) := by
  have hlast : cutLast ':' ('[' :: (host ++ [']']) ++ ':' :: port) =
      some ('[' :: (host ++ [']']), port) := cutLast_eq_some.mpr ⟨rfl, hport.1⟩
  have hfirst : cut ']' (host ++ ']' :: ':' :: port) = some (host, ':' :: port) :=
    cut_eq_some.mpr ⟨rfl, hclose⟩
  rw [splitHostPort, hlast]
  simp only [List.cons_append, List.append_assoc, List.nil_append, hfirst]
  simp [hopen, hport.2.1, hport.2.2]

theorem splitHostPort_plain {host port : List Char} (hhost : Unbracketed host)
    (hport : Unbracketed port) : splitHostPort (host ++ ':' :: port) = .ok (host, port) := by
  have hlast : cutLast ':' (host ++ ':' :: port) = some (host, port) :=
    cutLast_eq_some.mpr ⟨rfl, hport.1⟩
  have hopen : '[' ∉ host ++ ':' :: port := by simp [hhost.2.1, hport.2.1]
  have hclose : ']' ∉ host ++ ':' :: port := by simp [hhost.2.2, hport.2.2]
  rw [splitHostPort, hlast]
  dsimp only
  split
  · next inside hs => exact absurd (hs ▸ List.mem_cons_self) hopen
  · rw [if_neg hhost.1, if_neg hopen, if_neg hclose]

theorem splitHostPort_ok {hostport host port : List Char}
    (h : splitHostPort hostport = .ok (host, port)) :
    Unbracketed port ∧ ∃ bracketed form, HostForm bracketed host form ∧
      hostport = form ++ ':' :: port := by
  unfold splitHostPort at h
  split at h
  · exact absurd h (by simp)
  · next before port' hlast =>
      obtain ⟨hs, hcolon⟩ := cutLast_eq_some.mp hlast
      split at h
      · next inside =>
          split at h
          · exact absurd h (by simp)
          · exact absurd h (by simp)
          · next host' c behind hfirst =>
              obtain ⟨hinside, hclose⟩ := cut_eq_some.mp hfirst
              split at h
              · next hbehind =>
                  split at h
                  · exact absurd h (by simp)
                  · next hopen =>
                      split at h
                      · exact absurd h (by simp)
                      · next hclose' =>
                          obtain ⟨rfl, rfl⟩ := Prod.mk.inj (Except.ok.inj h)
                          rw [hbehind] at hinside hclose'
                          subst hinside
                          simp only [List.mem_append, List.mem_cons, not_or] at hopen hclose'
                          exact ⟨⟨hcolon, hopen.2.2.2, hclose'.2⟩, true, _,
                            ⟨hopen.1, hclose, rfl⟩, by simp⟩
              · split at h
                · exact absurd h (by simp)
                · exact absurd h (by simp)
      · split at h
        · exact absurd h (by simp)
        · next hhost =>
            split at h
            · exact absurd h (by simp)
            · next hopen =>
                split at h
                · exact absurd h (by simp)
                · next hclose =>
                    obtain ⟨rfl, rfl⟩ := Prod.mk.inj (Except.ok.inj h)
                    rw [hs] at hopen hclose
                    simp only [List.mem_append, List.mem_cons, not_or] at hopen hclose
                    exact ⟨⟨hcolon, hopen.2.2, hclose.2.2⟩, false, _,
                      ⟨⟨hhost, hopen.1, hclose.1⟩, rfl⟩, hs⟩

/-- `net.SplitHostPort` reads the addresses that are a host, plain or in brackets, a colon
and a port. -/
theorem splitHostPort_ok_iff {hostport host port : List Char} :
    splitHostPort hostport = .ok (host, port) ↔
      Unbracketed port ∧ ∃ bracketed form, HostForm bracketed host form ∧
        hostport = form ++ ':' :: port := by
  refine ⟨splitHostPort_ok, ?_⟩
  rintro ⟨hport, bracketed, form, hform, rfl⟩
  cases bracketed with
  | false =>
      obtain ⟨hhost, rfl⟩ := hform
      exact splitHostPort_plain hhost hport
  | true =>
      obtain ⟨hopen, hclose, rfl⟩ := hform
      exact splitHostPort_bracketed hopen hclose hport

example : splitHostPort "[::1]:80".toList = .ok ("::1".toList, "80".toList) := by decide

end GilStreaming
