import GilStreaming.Lib.GoSplit
import GilStreaming.Lib.GoStrconv

/-!
# GilStreaming.Coordinator.TurnURL

Which URLs `parseTurnUDPURL` takes for TURN servers that carry UDP.

The URL comes from the answer of the credential service, and the client sends its datagrams
to the host and the port that are read from it. A `TurnURI` is a URL with an address that
can be read; its `text` is the URL itself, so the parser is compared with the printer. What
the parser requires beyond the address is that `transport=udp` stands somewhere in the URL
(`parseTurnUDPURL_ok_iff`), which a TCP server can meet in a parameter of another name, and
it also takes a plus sign before the port, any text in brackets, and outside them any text
that no delimiter ends. `TurnURI.IsUDP` is what the URL has to be.
-/

namespace GilStreaming.Coordinator

/-- `parseTurnUDPURL`: the server, its port, and whether the URL is a TURN/UDP endpoint. -/
def parseTurnUDPURL (rawURL : String) : String × Int × Bool :=
  if !"turn:".toList.isPrefixOf rawURL.toList ||
      !contains rawURL.toList "transport=udp".toList then ("", 0, false)
  else
    let address := trimPrefix ((splitTwo '?' rawURL.toList).headD []) "turn:".toList
    match splitHostPort address with
    | .error _ => ("", 0, false)
    | .ok (host, portText) =>
      let (port, err) := atoi portText
      if err.isSome || port < 1 || port > 65535 || host = [] then ("", 0, false)
      else (String.ofList host, port, true)

/-! ### The URLs with an address -/

/-- A `turn:` URL with what the parser takes for a host, a port and maybe a query. -/
structure TurnURI where
  host : List Char
  /-- The host stands in brackets. -/
  bracketed : Bool
  /-- There is a plus sign before the port. -/
  plus : Bool
  digits : List Char
  query : Option (List Char)
  host_ne : host ≠ []
  /-- The host has none of the characters that end it, and no colon outside brackets. -/
  host_chars : '?' ∉ host ∧ '[' ∉ host ∧ ']' ∉ host ∧ (':' ∈ host → bracketed = true)
  digits_ne : digits ≠ []
  isDigit : ∀ c ∈ digits, c.isDigit = true
  port_range : 1 ≤ decimalValue 0 digits ∧ decimalValue 0 digits ≤ 65535

namespace TurnURI

def form (t : TurnURI) : List Char := if t.bracketed then '[' :: (t.host ++ [']']) else t.host

def portText (t : TurnURI) : List Char := if t.plus then '+' :: t.digits else t.digits

def port (t : TurnURI) : Nat := decimalValue 0 t.digits

def address (t : TurnURI) : List Char := t.form ++ ':' :: t.portText

def queryText (t : TurnURI) : List Char :=
  match t.query with
  | none => []
  | some query => '?' :: query

/-- The URL as it is written. -/
def text (t : TurnURI) : List Char := "turn:".toList ++ t.address ++ t.queryText

end TurnURI

/-- The value of the first parameter with the name in a query. -/
def queryParameter (name query : List Char) : Option (List Char) :=
  ((query.splitOn '&').map fun part => (cut '=' part).getD (part, [])).lookup name

/-- The character stands for itself anywhere in a URI, or delimits parts of a component. -/
def isNameChar (c : Char) : Bool :=
  c.isAlphanum || "-._~".toList.contains c || "!$&'()*+,;=".toList.contains c

/-- A part of a URI that has these characters besides: any other one is written as a percent
sign and two hexadecimal digits. -/
def isURIText (besides : List Char) : List Char → Bool
  | [] => true
  | '%' :: high :: low :: rest => isHexDigit high && isHexDigit low && isURIText besides rest
  | c :: rest => (isNameChar c || besides.contains c) && isURIText besides rest

/-- The URL is one of a TURN server for UDP: it has a query, and there its transport is `udp`;
the port is a decimal number without a sign; and the host is an IPv6 address in brackets, or a
name or an IPv4 address without them. -/
def TurnURI.IsUDP (t : TurnURI) : Prop :=
  (∃ query, t.query = some query ∧ isURIText ":@/?".toList query = true ∧
    queryParameter "transport".toList query = some "udp".toList) ∧
  t.plus = false ∧
  (if t.bracketed then isIPv6 t.host else isURIText [] t.host) = true

/-- The URL is one of a TURN server for UDP, with this host and port. -/
def IsTurnUDPURL (rawURL host : String) (port : Int) : Prop :=
  ∃ t : TurnURI, rawURL.toList = t.text ∧ t.IsUDP ∧ String.ofList t.host = host ∧ t.port = port

/-- The URL of a host and a port in the answers of the credential service. -/
def turnUDPURL (host : String) (port : Nat) : String :=
  "turn:" ++ host ++ ":" ++ itoa port ++ "?transport=udp"

/-! ### What is accepted -/

theorem mem_digits_ne {digits : List Char} (hdigits : ∀ c ∈ digits, c.isDigit = true) {d : Char}
    (hd : d.isDigit = false) : d ∉ digits :=
  fun h => absurd (hdigits d h) (by simp [hd])

/-- The characters of a host in its form, where the form has no `?`. -/
theorem hostForm_chars {bracketed : Bool} {host form : List Char}
    (h : HostForm bracketed host form) (hquestion : '?' ∉ form) :
    ('?' ∉ host ∧ '[' ∉ host ∧ ']' ∉ host ∧ (':' ∈ host → bracketed = true)) ∧
      form = if bracketed then '[' :: (host ++ [']']) else host := by
  cases bracketed with
  | false =>
      obtain ⟨⟨hcolon, hopen, hclose⟩, rfl⟩ := h
      exact ⟨⟨hquestion, hopen, hclose, fun h => absurd h hcolon⟩, rfl⟩
  | true =>
      obtain ⟨hopen, hclose, rfl⟩ := h
      exact ⟨⟨fun h => hquestion (by simp [h]), hopen, hclose, fun _ => rfl⟩, rfl⟩

namespace TurnURI

variable (t : TurnURI)

theorem unbracketed_portText : Unbracketed t.portText := by
  have hcolon : ':' ∉ t.digits := mem_digits_ne t.isDigit (by decide)
  have hopen : '[' ∉ t.digits := mem_digits_ne t.isDigit (by decide)
  have hclose : ']' ∉ t.digits := mem_digits_ne t.isDigit (by decide)
  unfold portText
  split
  · exact ⟨by simp [hcolon], by simp [hopen], by simp [hclose]⟩
  · exact ⟨hcolon, hopen, hclose⟩

theorem hostForm_form : HostForm t.bracketed t.host t.form := by
  obtain ⟨-, hopen, hclose, hcolon⟩ := t.host_chars
  cases hb : t.bracketed with
  | false => exact ⟨⟨fun h => by simp [hb] at hcolon; exact hcolon h, hopen, hclose⟩,
      by simp [form, hb]⟩
  | true => exact ⟨hopen, hclose, by simp [form, hb]⟩

theorem question_notMem_address : '?' ∉ t.address := by
  have hdigits : '?' ∉ t.digits := mem_digits_ne t.isDigit (by decide)
  have hhost := t.host_chars.1
  unfold address form portText
  split <;> split <;> simp [hdigits, hhost]

theorem queryText_cases : t.queryText = [] ∨ t.queryText.head? = some '?' := by
  unfold queryText
  cases t.query with
  | none => exact .inl rfl
  | some query => exact .inr rfl

theorem trimmed_text :
    trimPrefix ((splitTwo '?' t.text).headD []) "turn:".toList = t.address := by
  have hpart : '?' ∉ "turn:".toList ++ t.address := by
    rw [List.mem_append, not_or]
    exact ⟨by decide, t.question_notMem_address⟩
  rw [text, head_splitTwo_of_not_mem hpart _ t.queryText_cases]
  simp [trimPrefix]

theorem splitHostPort_address : splitHostPort t.address = .ok (t.host, t.portText) :=
  splitHostPort_ok_iff.mpr ⟨t.unbracketed_portText, _, _, t.hostForm_form, rfl⟩

theorem atoi_portText : atoi t.portText = ((t.port : Int), none) := by
  have hmax : (decimalValue 0 t.digits : Int) ≤ maxInt64 := by
    have := t.port_range.2
    unfold maxInt64
    omega
  exact atoi_digits t.digits_ne t.isDigit hmax t.plus

/-- What is read from a URL with an address: its host and port, if `transport=udp` stands in
it. -/
theorem parse_text {rawURL : String} (h : rawURL.toList = t.text) :
    parseTurnUDPURL rawURL =
      if contains t.text "transport=udp".toList then (String.ofList t.host, (t.port : Int), true)
      else ("", 0, false) := by
  have hscheme : "turn:".toList.isPrefixOf t.text = true :=
    List.isPrefixOf_iff_prefix.mpr ⟨t.address ++ t.queryText, by simp [text]⟩
  obtain ⟨hlow, hhigh⟩ : 1 ≤ t.port ∧ t.port ≤ 65535 := t.port_range
  have hrange : ¬ ((t.port : Int) < 1 ∨ (t.port : Int) > 65535) := by omega
  unfold parseTurnUDPURL
  rw [h, hscheme]
  cases hudp : contains t.text "transport=udp".toList with
  | false => simp
  | true =>
      simp only [Bool.not_true, Bool.or_self, Bool.false_eq_true, if_false, if_true]
      rw [t.trimmed_text, t.splitHostPort_address]
      simp only [t.atoi_portText]
      rw [if_neg]
      simpa [t.host_ne] using hrange

theorem mem_form_iff : '[' ∈ t.form ↔ t.bracketed = true := by
  have hopen := t.host_chars.2.1
  cases hb : t.bracketed with
  | false => simp [form, hb, hopen]
  | true => simp [form, hb]

theorem mem_portText_iff : '+' ∈ t.portText ↔ t.plus = true := by
  have hplus : '+' ∉ t.digits := mem_digits_ne t.isDigit (by decide)
  cases hp : t.plus with
  | false => simp [portText, hp, hplus]
  | true => simp [portText, hp]

theorem queryText_injective {t t' : TurnURI} (h : t.queryText = t'.queryText) :
    t.query = t'.query := by
  unfold queryText at h
  cases hq : t.query with
  | none =>
      cases hq' : t'.query with
      | none => rfl
      | some query' => simp [hq, hq'] at h
  | some query =>
      cases hq' : t'.query with
      | none => simp [hq, hq'] at h
      | some query' => simpa [hq, hq'] using h

/-- A URL with an address can be read in one way only. -/
theorem text_injective : Function.Injective TurnURI.text := by
  intro t t' h
  have haddress : t.address = t'.address := by
    rw [← t.trimmed_text, ← t'.trimmed_text, h]
  have hparts := t.splitHostPort_address.symm.trans (haddress ▸ t'.splitHostPort_address)
  obtain ⟨hhost, hport⟩ := Prod.mk.inj (Except.ok.inj hparts)
  have hform : t.form = t'.form := by
    unfold address at haddress
    rw [hport] at haddress
    exact List.append_cancel_right haddress
  have hbracketed : t.bracketed = t'.bracketed := by
    rw [Bool.eq_iff_iff, ← mem_form_iff, ← mem_form_iff, hform]
  have hplus : t.plus = t'.plus := by
    rw [Bool.eq_iff_iff, ← mem_portText_iff, ← mem_portText_iff, hport]
  have hdigits : t.digits = t'.digits := by
    unfold portText at hport
    rw [hplus] at hport
    split at hport
    · exact (List.cons.inj hport).2
    · exact hport
  have hquery : t.query = t'.query := by
    unfold text at h
    rw [haddress] at h
    exact queryText_injective (List.append_cancel_left h)
  cases t
  cases t'
  simp_all

end TurnURI

/-! ### What has an address -/

/-- The number of a text that is read as a positive `int` is written in digits, maybe behind
a plus sign. -/
theorem atoi_positive {portText : List Char} (h : (atoi portText).2 = none)
    (hpos : ¬ (atoi portText).1 < 1) :
    ∃ (plus : Bool) (digits : List Char),
      portText = (if plus then '+' :: digits else digits) ∧ digits ≠ [] ∧
        (∀ c ∈ digits, c.isDigit = true) ∧ (atoi portText).1 = decimalValue 0 digits := by
  obtain ⟨sign, digits, htext, hne, hdigits, hvalue⟩ := atoi_none h
  rcases hvalue with ⟨rfl | rfl, hvalue⟩ | ⟨rfl, hvalue⟩
  · exact ⟨false, digits, htext, hne, hdigits, hvalue⟩
  · exact ⟨true, digits, htext, hne, hdigits, hvalue⟩
  · omega

/-- Where a `turn:` URL ends its address: at its first `?`, which the scheme does not
have. -/
theorem exists_trimmed {url : List Char} (h : "turn:".toList <+: url) :
    ∃ address tail, url = "turn:".toList ++ address ++ tail ∧ '?' ∉ address ∧
      (tail = [] ∨ tail.head? = some '?') ∧
      trimPrefix ((splitTwo '?' url).headD []) "turn:".toList = address := by
  obtain ⟨rest, rfl⟩ := h
  obtain ⟨address, tail, rfl, hquestion, htail, -⟩ := exists_head_splitTwo '?' rest
  have hpart : '?' ∉ "turn:".toList ++ address := by
    rw [List.mem_append, not_or]
    exact ⟨by decide, hquestion⟩
  refine ⟨address, tail, by rw [List.append_assoc], hquestion, htail, ?_⟩
  rw [← List.append_assoc, head_splitTwo_of_not_mem hpart tail htail]
  simp [trimPrefix]

/-- An accepted URL has an address. -/
theorem exists_turnURI {rawURL host : String} {port : Int}
    (h : parseTurnUDPURL rawURL = (host, port, true)) :
    ∃ t : TurnURI, rawURL.toList = t.text := by
  unfold parseTurnUDPURL at h
  split at h
  · exact absurd h (by simp)
  · next hguard =>
      have hscheme : "turn:".toList <+: rawURL.toList := by
        rw [← List.isPrefixOf_iff_prefix]
        simp only [Bool.or_eq_true, not_or, Bool.not_eq_true', Bool.not_eq_false] at hguard
        exact hguard.1
      obtain ⟨address, tail, hurl, hquestion, htail, htrimmed⟩ := exists_trimmed hscheme
      dsimp only at h
      rw [htrimmed] at h
      split at h
      · exact absurd h (by simp)
      · next hostText portText hsplit =>
          obtain ⟨-, bracketed, form, hform, rfl⟩ := splitHostPort_ok_iff.mp hsplit
          split at h
          · exact absurd h (by simp)
          · next hvalid =>
              simp only [Bool.or_eq_true, decide_eq_true_eq, not_or, Bool.not_eq_true,
                Option.isSome_eq_false_iff, Option.isNone_iff_eq_none] at hvalid
              obtain ⟨⟨⟨herr, hlow⟩, hhigh⟩, hne⟩ := hvalid
              obtain ⟨plus, digits, rfl, hdigits_ne, hdigits, hvalue⟩ :=
                atoi_positive herr hlow
              rw [hvalue] at hlow hhigh
              have hchars := hostForm_chars hform (fun h => hquestion (by simp [h]))
              obtain ⟨query, hquery⟩ : ∃ query : Option (List Char),
                  tail = match query with
                    | none => []
                    | some query => '?' :: query := by
                rcases htail with rfl | htail
                · exact ⟨none, rfl⟩
                · obtain ⟨query, rfl⟩ := List.head?_eq_some_iff.mp htail
                  exact ⟨some query, rfl⟩
              exact ⟨⟨hostText, bracketed, plus, digits, query, hne, hchars.1, hdigits_ne,
                hdigits, by omega⟩, by
                  simp only [hurl, hquery, TurnURI.text, TurnURI.address, TurnURI.form,
                    TurnURI.portText, TurnURI.queryText, ← hchars.2]⟩

/-- The URLs that are accepted, and what is read from them: those with an address in which
`transport=udp` stands anywhere. -/
theorem parseTurnUDPURL_ok_iff {rawURL host : String} {port : Int} :
    parseTurnUDPURL rawURL = (host, port, true) ↔
      ∃ t : TurnURI, rawURL.toList = t.text ∧
        contains t.text "transport=udp".toList = true ∧
        String.ofList t.host = host ∧ t.port = port := by
  constructor
  · intro h
    obtain ⟨t, ht⟩ := exists_turnURI h
    rw [t.parse_text ht] at h
    split at h
    · next hudp =>
        obtain ⟨hhost, hport⟩ := Prod.mk.inj h
        exact ⟨t, ht, hudp, hhost, (Prod.mk.inj hport).1⟩
    · exact absurd h (by simp)
  · rintro ⟨t, ht, hudp, rfl, rfl⟩
    rw [t.parse_text ht, if_pos hudp]

/-! ### The transport -/

/-- A parameter that has a value stands in the query. -/
theorem infix_of_queryParameter {name value query : List Char} (hvalue : value ≠ [])
    (h : queryParameter name query = some value) : name ++ '=' :: value <:+: query := by
  obtain ⟨before, after, hparts, -⟩ := List.lookup_eq_some_iff.mp h
  have hmem : (name, value) ∈ (query.splitOn '&').map fun part => (cut '=' part).getD (part, []) :=
    hparts ▸ by simp
  obtain ⟨part, hpart, heq⟩ := List.mem_map.mp hmem
  cases hcut : cut '=' part with
  | none =>
      rw [hcut] at heq
      exact absurd (Prod.mk.inj heq).2.symm hvalue
  | some pair =>
      rw [hcut] at heq
      obtain rfl : pair = (name, value) := heq
      rw [← (cut_eq_some.mp hcut).1]
      exact infix_of_mem_splitOn hpart

namespace TurnURI

variable {t : TurnURI}

/-- A URL whose transport is `udp` says so. -/
theorem contains_text {query : List Char} (hquery : t.query = some query)
    (hparameter : queryParameter "transport".toList query = some "udp".toList) :
    contains t.text "transport=udp".toList = true := by
  have hstands : "transport=udp".toList <:+: query :=
    infix_of_queryParameter (by decide) hparameter
  have htext : query <:+: t.text :=
    ⟨"turn:".toList ++ t.address ++ ['?'], [], by simp [text, queryText, hquery]⟩
  exact contains_eq_true.mpr (hstands.trans htext)

theorem IsUDP.contains (h : t.IsUDP) : contains t.text "transport=udp".toList = true := by
  obtain ⟨⟨query, hquery, -, hparameter⟩, -⟩ := h
  exact contains_text hquery hparameter

end TurnURI

/-! ### A host and a port -/

/-- A host without special characters. -/
def PlainHost (host : String) : Prop :=
  host ≠ "" ∧ ∀ c ∈ host.toList, c ∉ ['?', ':', '[', ']']

/-- The URL of a plain host and a port. -/
def TurnURI.ofHostPort (host : String) (port : Nat) (hhost : PlainHost host)
    (hport : 1 ≤ port ∧ port ≤ 65535) : TurnURI where
  host := host.toList
  bracketed := false
  plus := false
  digits := (itoa port).toList
  query := some "transport=udp".toList
  host_ne h := hhost.1 (String.toList_eq_nil_iff.mp h)
  host_chars :=
    have hchars : ∀ c ∈ ['?', ':', '[', ']'], c ∉ host.toList := fun c hc h => hhost.2 c h hc
    ⟨hchars '?' (by simp), hchars '[' (by simp), hchars ']' (by simp),
      fun h => absurd h (hchars ':' (by simp))⟩
  digits_ne := itoa_ne_nil port
  isDigit _ := isDigit_of_mem_itoa
  port_range := by rwa [decimalValue_itoa]

theorem toList_turnUDPURL {host : String} {port : Nat} (hhost : PlainHost host)
    (hport : 1 ≤ port ∧ port ≤ 65535) :
    (turnUDPURL host port).toList = (TurnURI.ofHostPort host port hhost hport).text := by
  simp [turnUDPURL, TurnURI.text, TurnURI.address, TurnURI.form, TurnURI.portText,
    TurnURI.queryText, TurnURI.ofHostPort]

/-- Reading the URL of a plain host and a port gives them back. -/
theorem parse_turnUDPURL {host : String} {port : Nat} (hhost : PlainHost host)
    (hport : 1 ≤ port ∧ port ≤ 65535) :
    parseTurnUDPURL (turnUDPURL host port) = (host, (port : Int), true) := by
  have hparameter : queryParameter "transport".toList "transport=udp".toList =
      some "udp".toList := by decide +kernel
  have hudp := TurnURI.contains_text (t := TurnURI.ofHostPort host port hhost hport) rfl hparameter
  rw [TurnURI.parse_text _ (toList_turnUDPURL hhost hport), if_pos hudp]
  simp [TurnURI.ofHostPort, TurnURI.port, decimalValue_itoa]

/-- `parseTurnUDPURL` takes exactly the URLs of TURN servers for UDP, with their host and
port, unless it is given a URL with an address in which `transport=udp` stands, and the
transport is another, the query is none of a URI, the port has a plus sign, or the host is not
an IPv6 address in its brackets or a name without them. What it is given for a plain host and
a port is read back. -/
theorem parseTurnUDPURL_exact (rawURL : String) :
    ((∀ host port,
        parseTurnUDPURL rawURL = (host, port, true) ↔ IsTurnUDPURL rawURL host port) ↔
      ∀ t : TurnURI, rawURL.toList = t.text →
        contains t.text "transport=udp".toList = true → t.IsUDP) ∧
    ∀ (host : String) (port : Nat), PlainHost host → 1 ≤ port ∧ port ≤ 65535 →
      parseTurnUDPURL (turnUDPURL host port) = (host, (port : Int), true) := by
  refine ⟨⟨fun h t ht hudp => ?_, fun h host port => ?_⟩, fun _ _ => parse_turnUDPURL⟩
  · obtain ⟨t', ht', hudp', -⟩ := (h _ _).mp (parseTurnUDPURL_ok_iff.mpr ⟨t, ht, hudp, rfl, rfl⟩)
    rwa [TurnURI.text_injective (ht.symm.trans ht')]
  · rw [parseTurnUDPURL_ok_iff]
    constructor
    · rintro ⟨t, ht, hudp, hhost, hport⟩
      exact ⟨t, ht, h t ht hudp, hhost, hport⟩
    · rintro ⟨t, ht, hudp, hhost, hport⟩
      exact ⟨t, ht, hudp.contains, hhost, hport⟩

theorem parseTurnUDPURL_exact_cloudflare :
    parseTurnUDPURL (turnUDPURL "turn.cloudflare.com" 3478) = ("turn.cloudflare.com", 3478, true) :=
  (parseTurnUDPURL_exact "").2 "turn.cloudflare.com" 3478 ⟨by simp, by simp⟩ ⟨by omega, by omega⟩

/-- A server for TCP, with a parameter whose name ends in `transport`. -/
def tcpServer : TurnURI where
  host := "turn.example.com".toList
  bracketed := false
  plus := false
  digits := "3478".toList
  query := some "transport=tcp&alt-transport=udp".toList
  host_ne := by decide +kernel
  host_chars := by decide +kernel
  digits_ne := by decide +kernel
  isDigit := List.all_eq_true.mp (by decide +kernel)
  port_range := by decide +kernel

/-- A server for TCP is taken for one for UDP. -/
theorem tcp_server_accepted :
    parseTurnUDPURL "turn:turn.example.com:3478?transport=tcp&alt-transport=udp" =
        ("turn.example.com", 3478, true) ∧
      ¬ IsTurnUDPURL "turn:turn.example.com:3478?transport=tcp&alt-transport=udp"
        "turn.example.com" 3478 := by
  have htext : "turn:turn.example.com:3478?transport=tcp&alt-transport=udp".toList =
      tcpServer.text := by decide +kernel
  refine ⟨parseTurnUDPURL_ok_iff.mpr ⟨tcpServer, htext, ?_, ?_, ?_⟩, ?_⟩
  · decide +kernel
  · decide +kernel
  · decide +kernel
  rintro ⟨t, ht, ⟨⟨query, hquery, -, htransport⟩, -⟩, -⟩
  obtain rfl : t = tcpServer := TurnURI.text_injective (ht.symm.trans htext)
  obtain rfl := Option.some.inj hquery
  exact absurd htransport (by decide +kernel)

end GilStreaming.Coordinator
