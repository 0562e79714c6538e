import GilStreaming.Client.NvHttp
import Mathlib.Data.List.ModifyLast

/-!
# GilStreaming.Client.XmlItems

How `app/backend/nvhttp.cpp` reads a list from a stream of XML tokens.

The apps of a host and its display modes are read alike: two loops around
`readNextStartElement`, where an element of one name starts an item, and the text of some others
sets a field of the last. `read_eq_scan` leaves out the tokens: a run is one pass over the start
elements, each with the text that is read there.
-/

namespace GilStreaming.Client

/-! ### The reader -/

/-- `QXmlStreamReader::TokenType`. The tokens of a text end with the document or where the
reader meets an error. -/
inductive XmlToken
  | startElement (name : String)
  | characters (text : String)
  | endElement
  /-- A comment or a processing instruction. -/
  | other
  deriving DecidableEq, Repr

/-- `QXmlStreamReader::readNextStartElement`, and the tokens behind it. It is `none` where an
element or the document ends. -/
def readNextStartElement : List XmlToken → Option String × List XmlToken
  | [] => (none, [])
  | .startElement name :: tokens => (some name, tokens)
  | .endElement :: tokens => (none, tokens)
  | .characters _ :: tokens => readNextStartElement tokens
  | .other :: tokens => readNextStartElement tokens

/-- `QXmlStreamReader::readElementText`, with the text so far. A start element is an error,
after which there are no tokens. A text without characters is null. -/
def readElementText (result : Option String) : List XmlToken → Option String × List XmlToken
  | [] => (result, [])
  | .startElement _ :: _ => (result, [])
  | .endElement :: tokens => (result, tokens)
  | .characters text :: tokens => readElementText (some (result.getD "" ++ text)) tokens
  | .other :: tokens => readElementText result tokens

theorem readNextStartElement_length_le (tokens : List XmlToken) :
    (readNextStartElement tokens).2.length ≤ tokens.length := by
  induction tokens with
  | nil => exact Nat.le_refl _
  | cons token tokens ih => cases token <;> simp [readNextStartElement] <;> omega

theorem readNextStartElement_length_lt (token : XmlToken) (tokens : List XmlToken) :
    (readNextStartElement (token :: tokens)).2.length < (token :: tokens).length := by
  have hle := readNextStartElement_length_le tokens
  cases token <;> simp [readNextStartElement] <;> omega

theorem readElementText_length_le (result : Option String) (tokens : List XmlToken) :
    (readElementText result tokens).2.length ≤ tokens.length := by
  induction tokens generalizing result with
  | nil => exact Nat.le_refl _
  | cons token tokens ih =>
      cases token with
      | characters text => exact Nat.le_succ_of_le (ih _)
      | other => exact Nat.le_succ_of_le (ih _)
      | startElement name => exact Nat.zero_le _
      | endElement => exact Nat.le_succ _

/-! ### Lists -/

/-- What a list is read with. -/
structure ItemReader (α ε : Type) where
  /-- The element that starts an item. -/
  item : String
  /-- The elements whose text is read. -/
  fields : List String
  /-- The list with a new item, or an exception. -/
  start : List α → Except ε (List α)
  setField : α → String → Option String → α

namespace ItemReader

variable {α ε : Type} (r : ItemReader α ε)

/-- The loops. Where the inner one ends, the outer one starts it again unless the reader is at
the end. -/
def read (items : List α) (tokens : List XmlToken) : Except ε (List α) :=
  match tokens with
  | [] => .ok items
  | token :: tokens =>
      let next := readNextStartElement (token :: tokens)
      have : next.2.length < (token :: tokens).length :=
        readNextStartElement_length_lt token tokens
      match next.1 with
      | none => read items next.2
      | some name =>
          if name = r.item then
            match r.start items with
            | .error e => .error e
            | .ok items => read items next.2
          else if !items.isEmpty && r.fields.contains name then
            let text := readElementText none next.2
            have : text.2.length ≤ next.2.length := readElementText_length_le none next.2
            read (items.modifyLast fun item => r.setField item name text.1) text.2
          else read items next.2
  termination_by tokens.length
  decreasing_by
    all_goals first | assumption | exact Nat.lt_of_le_of_lt (by assumption) (by assumption)

end ItemReader

/-! ### Start elements -/

/-- A start element with the text that `readElementText` reads there. -/
structure StartElement where
  name : String
  text : Option String
  /-- The text ends with the element: no other one starts in it, and the document does not end. -/
  closed : Bool
  deriving DecidableEq, Repr

/-- Whether the text of an element ends with it. -/
def closes : List XmlToken → Bool
  | [] => false
  | .startElement _ :: _ => false
  | .endElement :: _ => true
  | .characters _ :: tokens => closes tokens
  | .other :: tokens => closes tokens

def elements : List XmlToken → List StartElement
  | [] => []
  | .startElement name :: tokens =>
      ⟨name, (readElementText none tokens).1, closes tokens⟩ :: elements tokens
  | .characters _ :: tokens => elements tokens
  | .endElement :: tokens => elements tokens
  | .other :: tokens => elements tokens

theorem elements_readNextStartElement (tokens : List XmlToken) :
    elements tokens =
      match (readNextStartElement tokens).1 with
      | none => elements (readNextStartElement tokens).2
      | some name =>
          let rest := (readNextStartElement tokens).2
          ⟨name, (readElementText none rest).1, closes rest⟩ :: elements rest := by
  induction tokens with
  | nil => rfl
  | cons token tokens ih =>
      cases token with
      | startElement name => rfl
      | endElement => rfl
      | characters text => exact ih
      | other => exact ih

/-- A text passes no start element. -/
theorem elements_readElementText (result : Option String) (tokens : List XmlToken) :
    elements (readElementText result tokens).2 = if closes tokens then elements tokens else [] := by
  induction tokens generalizing result with
  | nil => rfl
  | cons token tokens ih =>
      cases token with
      | startElement name => rfl
      | endElement => rfl
      | characters text => exact ih _
      | other => exact ih _

namespace ItemReader

variable {α ε : Type} (r : ItemReader α ε)

/-- The loops as one pass over the start elements. -/
def scan : List α → List StartElement → Except ε (List α)
  | items, [] => .ok items
  | items, e :: es =>
      if e.name = r.item then
        match r.start items with
        | .error err => .error err
        | .ok items => scan items es
      else if !items.isEmpty && r.fields.contains e.name then
        let items := items.modifyLast fun item => r.setField item e.name e.text
        if e.closed then scan items es else .ok items
      else scan items es

theorem scan_nil (items : List α) : r.scan items [] = .ok items := by
  unfold scan
  rfl

/-- The tokens between the start elements do not matter. -/
theorem read_eq_scan (items : List α) (tokens : List XmlToken) :
    r.read items tokens = r.scan items (elements tokens) := by
  induction items, tokens using read.induct r with
  | case1 items => rw [read, elements, scan_nil]
  | case2 items token tokens next _ hend ih =>
      rw [read, elements_readNextStartElement]
      simp only [show (readNextStartElement (token :: tokens)).1 = none from hend]
      exact ih
  | case3 items token tokens next _ e herror hstart =>
      rw [read, elements_readNextStartElement]
      simp only [show (readNextStartElement (token :: tokens)).1 = some r.item from hstart]
      simp only [scan, if_true, herror]
  | case4 items token tokens next _ items' hitems hstart ih =>
      rw [read, elements_readNextStartElement]
      simp only [show (readNextStartElement (token :: tokens)).1 = some r.item from hstart]
      simp only [scan, if_true, hitems]
      exact ih
  | case5 items token tokens next _ name hstart hitem hfield text _ ih =>
      rw [read, elements_readNextStartElement]
      simp only [show (readNextStartElement (token :: tokens)).1 = some name from hstart]
      simp only [scan, if_neg hitem, if_pos hfield]
      refine ih.trans ?_
      rw [elements_readElementText]
      cases closes next.2 with
      | true => rfl
      | false => exact r.scan_nil _
  | case6 items token tokens next _ name hstart hitem hfield ih =>
      rw [read, elements_readNextStartElement]
      simp only [show (readNextStartElement (token :: tokens)).1 = some name from hstart]
      simp only [scan, if_neg hitem, if_neg hfield]
      exact ih

end ItemReader

end GilStreaming.Client
