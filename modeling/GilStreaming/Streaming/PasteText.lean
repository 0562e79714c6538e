import GilStreaming.Streaming.KeyboardInput
import Mathlib.Data.List.Basic

/-!
# GilStreaming.Streaming.PasteText

The loop that makes one LF of each CRLF in the text of the clipboard, in place:
`performSpecialKeyCombo` in `app/streaming/input/keyboard.cpp`.

A buffer is the memory from the text on. It is read and written up to the terminator, which is its
first NUL, and an access beyond that has no result. Each CR that is taken out moves the terminator
one byte towards the start, so that the loop ends after as many steps as the text has bytes, with a
NUL for each CR behind the new text. On the bytes of a text in UTF-8 it does what `fixLineEnds` does
on its characters.
-/

namespace GilStreaming.Streaming

namespace PasteText

abbrev CR : UInt8 := 13

abbrev LF : UInt8 := 10

/-! ### The loop -/

/-- Where the text ends. -/
def terminator (buffer : List UInt8) : Nat := buffer.idxOf 0

/-- `*c`. -/
def readByte (buffer : List UInt8) (c : Nat) : Option UInt8 :=
  if c ≤ terminator buffer then buffer[c]? else none

/-- `strlen(c)`. -/
def strlen (buffer : List UInt8) (c : Nat) : Option Nat :=
  if c ≤ terminator buffer then some (terminator buffer - c) else none

def memmove (buffer : List UInt8) (dst src n : Nat) : Option (List UInt8) :=
  if dst + n ≤ terminator buffer + 1 ∧ src + n ≤ terminator buffer + 1 then
    some (buffer.take dst ++ (buffer.drop src).take n ++ buffer.drop (dst + n))
  else none

/-- The loop from `c` on, for this many steps at most. -/
def fixBytes : Nat → List UInt8 → Nat → Option (List UInt8)
  | 0, _, _ => none
  | steps + 1, buffer, c => do
      let byte ← readByte buffer c
      if byte = 0 then return buffer
      else if byte = CR then
        let next ← readByte buffer (c + 1)
        if next = LF then
          -- One byte more than is left of the text behind `c + 1`: the terminator is moved too.
          let buffer ← memmove buffer c (c + 1) (← strlen buffer c)
          fixBytes steps buffer (c + 1)
        else fixBytes steps buffer (c + 1)
      else fixBytes steps buffer (c + 1)

/-! ### What it leaves -/

/-- The text with each CR LF replaced by LF. -/
def replaceCrLf : List UInt8 → List UInt8
  | [] => []
  | 13 :: 10 :: text => LF :: replaceCrLf text
  | byte :: text => byte :: replaceCrLf text

example : replaceCrLf [97, CR, CR, LF, CR, 98, CR, LF, LF, CR] = [97, CR, LF, CR, 98, LF, LF, CR] :=
  rfl

theorem replaceCrLf_cons {byte : UInt8} {text : List UInt8}
    (h : ∀ text', byte = CR → text = LF :: text' → False) :
    replaceCrLf (byte :: text) = byte :: replaceCrLf text := by
  rw [replaceCrLf]
  exact h

theorem length_replaceCrLf_le (text : List UInt8) : (replaceCrLf text).length ≤ text.length := by
  induction text using replaceCrLf.induct with
  | case1 => exact Nat.le_refl 0
  | case2 text ih =>
      rw [replaceCrLf, List.length_cons, List.length_cons, List.length_cons]
      omega
  | case3 byte text hne ih =>
      rw [replaceCrLf_cons hne, List.length_cons, List.length_cons]
      omega

theorem zero_notMem_replaceCrLf {text : List UInt8} (h : 0 ∉ text) : 0 ∉ replaceCrLf text := by
  induction text using replaceCrLf.induct with
  | case1 => exact h
  | case2 text ih =>
      rw [replaceCrLf]
      simp only [List.mem_cons, not_or] at h ⊢
      exact ⟨by decide, ih h.2.2⟩
  | case3 byte text hne ih =>
      rw [replaceCrLf_cons hne]
      rw [List.mem_cons, not_or] at h ⊢
      exact ⟨h.1, ih h.2⟩

/-! ### One access -/

section Access

variable {before text : List UInt8} (rest : List UInt8)

theorem terminator_eq (hbefore : 0 ∉ before) (htext : 0 ∉ text) :
    terminator (before ++ text ++ 0 :: rest) = before.length + text.length := by
  have hall : 0 ∉ before ++ text := by
    rw [List.mem_append, not_or]
    exact ⟨hbefore, htext⟩
  rw [terminator, List.idxOf_append_of_notMem hall, List.idxOf_cons_self, List.length_append,
    Nat.add_zero]

/-- What is read of the text: its bytes, and then the terminator. -/
theorem readByte_eq (hbefore : 0 ∉ before) (htext : 0 ∉ text) {k : Nat} (hk : k ≤ text.length) :
    readByte (before ++ text ++ 0 :: rest) (before.length + k) = (text ++ [0])[k]? := by
  have hsplit : before ++ text ++ 0 :: rest = before ++ (text ++ [0] ++ rest) := by simp
  rw [readByte, terminator_eq rest hbefore htext, if_pos (by omega), hsplit,
    List.getElem?_append_right (by omega), Nat.add_sub_cancel_left,
    List.getElem?_append_left (by rw [List.length_append, List.length_singleton]; omega)]

theorem strlen_eq (hbefore : 0 ∉ before) (htext : 0 ∉ text) :
    strlen (before ++ text ++ 0 :: rest) before.length = some text.length := by
  rw [strlen, terminator_eq rest hbefore htext, if_pos (by omega), Nat.add_sub_cancel_left]

/-- The move takes the byte at `c` out and leaves a second NUL behind the terminator. -/
theorem memmove_eq {byte : UInt8} (hbefore : 0 ∉ before) (hbyte : byte ≠ 0) (htext : 0 ∉ text) :
    memmove (before ++ byte :: text ++ 0 :: rest) before.length (before.length + 1)
      (byte :: text).length = some (before ++ text ++ 0 :: 0 :: rest) := by
  have hcons : 0 ∉ byte :: text := by
    rw [List.mem_cons, not_or]
    exact ⟨hbyte.symm, htext⟩
  rw [memmove, terminator_eq rest hbefore hcons, List.length_cons, if_pos (by omega)]
  have htake : (before ++ byte :: text ++ 0 :: rest).take before.length = before := by simp
  have hmoved : ((before ++ byte :: text ++ 0 :: rest).drop (before.length + 1)).take
      (text.length + 1) = text ++ [0] := by
    have hdrop : (before ++ byte :: text ++ 0 :: rest).drop (before.length + 1) =
        text ++ [0] ++ rest := by simp
    rw [hdrop]
    exact List.take_left' (by simp)
  have hbehind : (before ++ byte :: text ++ 0 :: rest).drop (before.length + (text.length + 1)) =
      0 :: rest := List.drop_left' (by simp)
  rw [htake, hmoved, hbehind]
  simp

end Access

/-! ### One step -/

section Step

variable {steps : Nat} {before text rest : List UInt8}

theorem fixBytes_nil (hbefore : 0 ∉ before) :
    fixBytes (steps + 1) (before ++ [] ++ 0 :: rest) before.length =
      some (before ++ [] ++ 0 :: rest) := by
  have hread := readByte_eq rest hbefore List.not_mem_nil (Nat.zero_le _)
  rw [Nat.add_zero] at hread
  rw [fixBytes, hread]
  rfl

/-- A CR before an LF is taken out, and the LF is behind the pointer then. -/
theorem fixBytes_crLf (hbefore : 0 ∉ before) (htext : 0 ∉ text) :
    fixBytes (steps + 1) (before ++ CR :: LF :: text ++ 0 :: rest) before.length =
      fixBytes steps (before ++ [LF] ++ text ++ 0 :: 0 :: rest) (before ++ [LF]).length := by
  have hlf : 0 ∉ LF :: text := by
    rw [List.mem_cons, not_or]
    exact ⟨by decide, htext⟩
  have hcr : 0 ∉ CR :: LF :: text := by
    rw [List.mem_cons, not_or]
    exact ⟨by decide, hlf⟩
  have hbyte := readByte_eq rest hbefore hcr (k := 0) (by simp)
  have hnext := readByte_eq rest hbefore hcr (k := 1) (by simp)
  have hmoved := memmove_eq rest hbefore (by decide : CR ≠ 0) hlf
  rw [Nat.add_zero] at hbyte
  calc fixBytes (steps + 1) (before ++ CR :: LF :: text ++ 0 :: rest) before.length
      = (memmove (before ++ CR :: LF :: text ++ 0 :: rest) before.length (before.length + 1)
          (CR :: LF :: text).length).bind
            fun buffer => fixBytes steps buffer (before.length + 1) := by
        rw [fixBytes, hbyte, hnext, strlen_eq rest hbefore hcr]
        rfl
    _ = fixBytes steps (before ++ LF :: text ++ 0 :: 0 :: rest) (before.length + 1) := by
        rw [hmoved, Option.bind_some]
    _ = fixBytes steps (before ++ [LF] ++ text ++ 0 :: 0 :: rest) (before ++ [LF]).length := by
        rw [List.append_cons before LF text, List.length_append, List.length_singleton]

/-- Any other byte is left. -/
theorem fixBytes_cons {byte : UInt8} (hbefore : 0 ∉ before) (hbyte : byte ≠ 0) (htext : 0 ∉ text)
    (hne : ∀ text', byte = CR → text = LF :: text' → False) :
    fixBytes (steps + 1) (before ++ byte :: text ++ 0 :: rest) before.length =
      fixBytes steps (before ++ [byte] ++ text ++ 0 :: rest) (before ++ [byte]).length := by
  have hcons : 0 ∉ byte :: text := by
    rw [List.mem_cons, not_or]
    exact ⟨hbyte.symm, htext⟩
  have hread := readByte_eq rest hbefore hcons (k := 0) (by simp)
  have hnext := readByte_eq rest hbefore hcons (k := 1) (by simp)
  rw [Nat.add_zero] at hread
  rw [List.append_assoc before [byte] text, List.singleton_append, List.length_append,
    List.length_singleton, fixBytes, hread, hnext]
  by_cases hcr : byte = CR
  · subst hcr
    -- The byte after a CR is read, and it may be the terminator.
    cases text with
    | nil => rfl
    | cons next text =>
        have hnlf : next ≠ LF := fun h => hne text rfl (by rw [h])
        simp only [List.cons_append, List.getElem?_cons_zero, List.getElem?_cons_succ,
          Option.bind_eq_bind, Option.bind_some]
        rw [if_neg hbyte, if_pos trivial, if_neg hnlf]
  · simp only [List.cons_append, List.getElem?_cons_zero, Option.bind_eq_bind, Option.bind_some]
    rw [if_neg hbyte, if_neg hcr]

end Step

/-! ### The whole loop -/

/-- The text before the pointer stays as it is, and what is left of the text is fixed up. -/
theorem fixBytes_eq (text : List UInt8) :
    ∀ {steps : Nat} {before : List UInt8} (rest : List UInt8), 0 ∉ before → 0 ∉ text →
      text.length < steps →
      fixBytes steps (before ++ text ++ 0 :: rest) before.length =
        some (before ++ replaceCrLf text ++
          0 :: (List.replicate (text.length - (replaceCrLf text).length) 0 ++ rest)) := by
  induction text using replaceCrLf.induct with
  | case1 =>
      intro steps before rest hbefore _ hsteps
      cases steps with
      | zero => exact absurd hsteps (Nat.not_lt_zero _)
      | succ steps =>
          rw [fixBytes_nil hbefore]
          rfl
  | case2 text ih =>
      intro steps before rest hbefore htext hsteps
      simp only [List.mem_cons, not_or] at htext
      have hlf : 0 ∉ before ++ [LF] := by
        rw [List.mem_append, List.mem_singleton, not_or]
        exact ⟨hbefore, by decide⟩
      cases steps with
      | zero => exact absurd hsteps (Nat.not_lt_zero _)
      | succ steps =>
          rw [List.length_cons, List.length_cons] at hsteps
          have hle := length_replaceCrLf_le text
          -- The NUL that this step leaves is one of those behind the new text.
          have hnuls : List.replicate (text.length - (replaceCrLf text).length) 0 ++ 0 :: rest =
              List.replicate (text.length + 1 + 1 - ((replaceCrLf text).length + 1)) 0 ++ rest := by
            rw [Nat.add_sub_add_right, Nat.succ_sub hle, List.replicate_succ', List.append_assoc,
              List.singleton_append]
          rw [fixBytes_crLf hbefore htext.2.2, ih _ hlf htext.2.2 (by omega), hnuls, replaceCrLf,
            List.append_cons before LF (replaceCrLf text)]
          rfl
  | case3 byte text hne ih =>
      intro steps before rest hbefore htext hsteps
      rw [List.mem_cons, not_or] at htext
      have hbyte : 0 ∉ before ++ [byte] := by
        rw [List.mem_append, List.mem_singleton, not_or]
        exact ⟨hbefore, htext.1⟩
      cases steps with
      | zero => exact absurd hsteps (Nat.not_lt_zero _)
      | succ steps =>
          rw [List.length_cons] at hsteps
          rw [fixBytes_cons hbefore (Ne.symm htext.1) htext.2 hne, ih _ hbyte htext.2 (by omega),
            replaceCrLf_cons hne, List.append_cons before byte (replaceCrLf text),
            List.length_cons, List.length_cons, Nat.add_sub_add_right]

/-- The text of a buffer, as it is sent. -/
def textOf (buffer : List UInt8) : List UInt8 := buffer.take (terminator buffer)

theorem terminator_append_cons {text : List UInt8} (rest : List UInt8) (htext : 0 ∉ text) :
    terminator (text ++ 0 :: rest) = text.length := by
  have hend := terminator_eq rest List.not_mem_nil htext
  rw [List.nil_append, List.length_nil, Nat.zero_add] at hend
  exact hend

theorem textOf_eq {text : List UInt8} (rest : List UInt8) (htext : 0 ∉ text) :
    textOf (text ++ 0 :: rest) = text := by
  rw [textOf, terminator_append_cons rest htext]
  exact List.take_left' rfl

/-- The loop ends on every text that has a terminator, with no access beyond it, and what is
behind it stays as it is. -/
theorem fixBytes_replaces {buffer : List UInt8} (h : 0 ∈ buffer) :
    ∃ buffer' : List UInt8,
      (∀ steps, terminator buffer < steps → fixBytes steps buffer 0 = some buffer') ∧
      textOf buffer' = replaceCrLf (textOf buffer) ∧ 0 ∈ buffer' ∧
      buffer'.length = buffer.length ∧
      buffer'.drop (terminator buffer + 1) = buffer.drop (terminator buffer + 1) := by
  obtain ⟨text, rest, rfl, htext⟩ := List.eq_append_cons_of_mem h
  have hend := terminator_append_cons rest htext
  have hle := length_replaceCrLf_le text
  refine ⟨replaceCrLf text ++
      0 :: (List.replicate (text.length - (replaceCrLf text).length) 0 ++ rest), ?_, ?_, ?_, ?_, ?_⟩
  · intro steps hsteps
    rw [hend] at hsteps
    exact fixBytes_eq text rest List.not_mem_nil htext hsteps
  · rw [textOf_eq rest htext, textOf_eq _ (zero_notMem_replaceCrLf htext)]
  · simp
  · simp only [List.length_append, List.length_cons, List.length_replicate]
    omega
  · have hnuls : replaceCrLf text ++
        0 :: (List.replicate (text.length - (replaceCrLf text).length) 0 ++ rest) =
        replaceCrLf text ++ List.replicate (text.length - (replaceCrLf text).length + 1) 0 ++
          rest := by
      rw [List.replicate_succ, List.append_assoc, List.cons_append]
    have hcons : text ++ 0 :: rest = text ++ [0] ++ rest := by simp
    have hlength : (replaceCrLf text ++
        List.replicate (text.length - (replaceCrLf text).length + 1) 0).length =
        text.length + 1 := by
      rw [List.length_append, List.length_replicate]
      omega
    rw [hend, hnuls, hcons, List.drop_left' hlength, List.drop_left' (by simp)]

/-- A CR before a CR LF, and a CR at the end, are kept. -/
theorem fixBytes_replaces_runs :
    ∃ buffer' : List UInt8,
      (∀ steps, terminator [97, CR, CR, LF, LF, CR, LF, CR, 0, 13, 10] < steps →
        fixBytes steps [97, CR, CR, LF, LF, CR, LF, CR, 0, 13, 10] 0 = some buffer') ∧
      textOf buffer' = replaceCrLf (textOf [97, CR, CR, LF, LF, CR, LF, CR, 0, 13, 10]) ∧
      0 ∈ buffer' ∧ buffer'.length = 11 ∧
      buffer'.drop (terminator [97, CR, CR, LF, LF, CR, LF, CR, 0, 13, 10] + 1) =
        List.drop (terminator [97, CR, CR, LF, LF, CR, LF, CR, 0, 13, 10] + 1)
          [97, CR, CR, LF, LF, CR, LF, CR, 0, 13, 10] :=
  fixBytes_replaces (by decide)

/-! ### Characters -/

/-- A byte of ASCII in the UTF-8 of a character is the character. -/
theorem eq_of_mem_utf8EncodeChar {c : Char} {byte : UInt8} (h : byte ∈ String.utf8EncodeChar c)
    (hascii : byte.toNat < 128) : c = Char.ofNat byte.toNat := by
  -- All bytes of a character of several bytes have the high bit.
  have hhigh : ∀ n, 128 ≤ n → n < 256 → byte ≠ UInt8.ofNat n := by
    rintro n hle hlt rfl
    rw [UInt8.toNat_ofNat'] at hascii
    omega
  rw [String.utf8EncodeChar] at h
  split_ifs at h with hone htwo hthree <;>
    simp only [List.mem_cons, List.not_mem_nil, or_false] at h
  · have hbyte : byte.toNat = c.toNat := by
      rw [h, UInt8.toNat_ofNat', Char.toNat]
      omega
    rw [hbyte, Char.ofNat_toNat]
  · obtain h | h := h <;> exact absurd h (hhigh _ (by omega) (by omega))
  · obtain h | h | h := h <;> exact absurd h (hhigh _ (by omega) (by omega))
  · obtain h | h | h | h := h <;> exact absurd h (hhigh _ (by omega) (by omega))

theorem replaceCrLf_append {bytes text : List UInt8} (h : CR ∉ bytes) :
    replaceCrLf (bytes ++ text) = bytes ++ replaceCrLf text := by
  induction bytes with
  | nil => rfl
  | cons byte bytes ih =>
      rw [List.mem_cons, not_or] at h
      rw [List.cons_append, replaceCrLf_cons fun _ hcr _ => h.1 hcr.symm, ih h.2]
      rfl

open SdlInputHandler in
/-- On the bytes of a text the loop does what `fixLineEnds` does on its characters. -/
theorem replaceCrLf_utf8 (text : List Char) :
    replaceCrLf (text.flatMap String.utf8EncodeChar) =
      (fixLineEnds text).flatMap String.utf8EncodeChar := by
  induction text using fixLineEnds.induct with
  | case1 => rfl
  | case2 text ih =>
      rw [fixLineEnds, List.flatMap_cons, List.flatMap_cons, List.flatMap_cons, ← ih]
      rfl
  | case3 c text hne ih =>
      have hfix : fixLineEnds (c :: text) = c :: fixLineEnds text := by
        rw [fixLineEnds]
        exact hne
      rw [hfix, List.flatMap_cons, List.flatMap_cons, ← ih]
      by_cases hcr : CR ∈ String.utf8EncodeChar c
      · -- A CR is no part of another character.
        have hc : c = '\r' := eq_of_mem_utf8EncodeChar hcr (by decide)
        subst hc
        refine replaceCrLf_cons fun rest _ hlf => ?_
        cases text with
        | nil => exact List.cons_ne_nil _ _ hlf.symm
        | cons next text =>
            obtain ⟨byte, bytes, hbytes⟩ :=
              List.exists_cons_of_ne_nil (String.utf8EncodeChar_ne_nil (c := next))
            rw [List.flatMap_cons, hbytes, List.cons_append] at hlf
            have hmem : LF ∈ String.utf8EncodeChar next := by
              rw [hbytes, (List.cons.inj hlf).1]
              exact List.mem_cons_self
            exact hne text rfl (by rw [eq_of_mem_utf8EncodeChar hmem (by decide)]; rfl)
      · exact replaceCrLf_append hcr

open SdlInputHandler in
/-- What `pasteText` sends is the text that the loop leaves. -/
theorem fixBytes_utf8 {text : List Char} (htext : Char.ofNat 0 ∉ text) (rest : List UInt8)
    {steps : Nat} (hsteps : (text.flatMap String.utf8EncodeChar).length < steps) :
    (fixBytes steps (text.flatMap String.utf8EncodeChar ++ 0 :: rest) 0).map textOf =
      some ((fixLineEnds text).flatMap String.utf8EncodeChar) := by
  have hbytes : 0 ∉ text.flatMap String.utf8EncodeChar := by
    intro hmem
    obtain ⟨c, hc, hbyte⟩ := List.mem_flatMap.mp hmem
    exact htext (eq_of_mem_utf8EncodeChar hbyte (by decide) ▸ hc)
  have hfixed := fixBytes_eq (text.flatMap String.utf8EncodeChar) rest List.not_mem_nil hbytes
    hsteps
  rw [List.nil_append, List.length_nil] at hfixed
  rw [hfixed, Option.map_some, List.nil_append, textOf_eq _ (zero_notMem_replaceCrLf hbytes),
    replaceCrLf_utf8]

end PasteText

end GilStreaming.Streaming
