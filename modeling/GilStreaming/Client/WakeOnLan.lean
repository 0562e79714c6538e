import GilStreaming.Client.HostMerge
import GilStreaming.Client.HostRoundTrip
import GilStreaming.Client.ServerInfo

/-!
# GilStreaming.Client.WakeOnLan

The address that wakes a host: where it comes from, what keeps it, and what `wake` sends.

`parseMac` makes a byte of every part of the reported text, whatever the part is and however
many there are. A merge takes the bytes unless there are none, and a flush and a start-up keep
them. So the address of a host is always that of the last text with one (`tracked_step`), and it
is as good as that text.
-/

namespace GilStreaming.Client

open QSettings

/-! ### Waking -/

/-- What `wake` does. -/
inductive Wake
  /-- The host is online, and nothing is to do. -/
  | alreadyOnline
  | noMacAddress
  /-- The payload goes to every address and port. -/
  | sends (wolPayload : List UInt8)
  deriving DecidableEq, Repr

def NvComputer.wake (c : NvComputer) : Wake :=
  if c.state = .online then .alreadyOnline
  else if c.macAddress.isEmpty then .noMacAddress
  else .sends (QByteArray.fromHex "FFFFFFFFFFFF" ++ (List.replicate 16 c.macAddress).flatten)

/-- The packet that wakes the owner of an address. -/
def magicPacket (octets : List UInt8) : List UInt8 :=
  List.replicate 6 255 ++ (List.replicate 16 octets).flatten

theorem wake_sends {c : NvComputer} {payload : List UInt8} :
    c.wake = .sends payload ↔
      c.state ≠ .online ∧ c.macAddress ≠ [] ∧ payload = magicPacket c.macAddress := by
  have hff : QByteArray.fromHex "FFFFFFFFFFFF" = List.replicate 6 255 := by decide
  rw [NvComputer.wake, magicPacket, hff]
  by_cases honline : c.state = .online
  · simp [honline]
  · by_cases hempty : c.macAddress = []
    · simp [honline, hempty]
    · rw [if_neg honline, if_neg (by simpa using hempty), Wake.sends.injEq]
      exact ⟨fun h => ⟨honline, hempty, h.symm⟩, fun h => h.2.2.symm⟩

theorem length_magicPacket {octets : List UInt8} (h : octets.length = 6) :
    (magicPacket octets).length = 102 := by
  simp [magicPacket, h]

/-! ### Reported addresses -/

open NvComputer

/-- The octet that a part of the text stands for. -/
def reportedOctet (part : String) : Option UInt8 :=
  match QString.toIntHex? part with
  | some n => if 0 ≤ n ∧ n ≤ 255 then some (UInt8.ofNat n.toNat) else none
  | none => none

/-- The octets of a text that has nothing else between its colons. -/
def reportedOctets (text : String) : Option (List UInt8) :=
  (QString.split text ':').mapM reportedOctet

/-- A text that reports six octets, or no address. -/
def WellReported (text : String) : Prop :=
  text = noMacText ∨ ∃ octets, reportedOctets text = some octets ∧ octets.length = 6

theorem macByte_of_reportedOctet {part : String} {octet : UInt8}
    (h : reportedOctet part = some octet) : macByte part = octet := by
  rw [reportedOctet] at h
  split at h
  · rename_i n hn
    by_cases hrange : 0 ≤ n ∧ n ≤ 255
    · rw [if_pos hrange, Option.some.injEq] at h
      rw [macByte, QString.toIntHex, hn, Option.getD_some,
        Int.emod_eq_of_lt hrange.1 (by omega), h]
    · rw [if_neg hrange] at h
      cases h
  · cases h

theorem map_macByte_of_mapM {parts : List String} {octets : List UInt8}
    (h : parts.mapM reportedOctet = some octets) : parts.map macByte = octets := by
  induction parts generalizing octets with
  | nil => simpa using h
  | cons part parts ih =>
      rw [List.mapM_cons] at h
      obtain ⟨octet, hoctet, h⟩ := Option.bind_eq_some_iff.mp h
      obtain ⟨octets', hoctets, h⟩ := Option.bind_eq_some_iff.mp h
      obtain rfl := Option.some.inj h
      rw [List.map_cons, macByte_of_reportedOctet hoctet, ih hoctets]

theorem parseMac_eq_nil {text : String} : parseMac text = [] ↔ text = noMacText := by
  rw [parseMac]
  by_cases hnone : text = noMacText
  · simp [hnone]
  · rw [if_pos hnone, List.map_eq_nil_iff, QString.split, List.map_eq_nil_iff]
    exact iff_of_false (List.splitOn_ne_nil _ _) hnone

theorem parseMac_of_octets {text : String} {octets : List UInt8} (hnone : text ≠ noMacText)
    (h : reportedOctets text = some octets) : parseMac text = octets := by
  rw [parseMac, if_pos hnone]
  exact map_macByte_of_mapM h

/-! ### Histories -/

/-- What happens to a host. -/
inductive HostEvent
  /-- It is added from a reply. -/
  | created (http : NvHttp String) (serverInfo : String)
  /-- A poll result is merged. -/
  | merged (http : NvHttp String) (serverInfo : String)
  /-- Other fields change. -/
  | changed (f : NvComputer → NvComputer)
  /-- It is saved between other hosts, and restored. -/
  | restarted (settings : QSettings) (before after : List NvComputer)

/-- A host, and the last text that gave it an address. -/
structure TrackedHost where
  host : NvComputer
  reported : Option String

namespace TrackedHost

variable (r : ServerInfoReader) (toLower : String → String)

def macText (serverInfo : String) : String := r.xml.getXmlString serverInfo "mac"

/-- The last text, with a new one. -/
def note (reported : Option String) (text : String) : Option String :=
  if text = noMacText then reported else some text

/-- The host at a place in the list that a start-up restores from a complete flush. -/
def restored (settings : QSettings) (before : List NvComputer) (host : NvComputer)
    (after : List NvComputer) : NvComputer :=
  let hosts := before ++ host :: after
  ((restoredHosts toLower (applyAll settings (Flush.mk hosts hosts).ops))[before.length]?).getD
    blank

def step (s : TrackedHost) : HostEvent → TrackedHost
  | .created http serverInfo =>
      ⟨ofServerInfo r http serverInfo, note none (macText r serverInfo)⟩
  | .merged http serverInfo =>
      ⟨(s.host.update toLower (ofServerInfo r http serverInfo)).1,
        note s.reported (macText r serverInfo)⟩
  | .changed f => ⟨{ f s.host with macAddress := s.host.macAddress }, s.reported⟩
  | .restarted settings before after =>
      ⟨restored toLower settings before s.host after, s.reported⟩

/-- A host that is not known yet. -/
def start : TrackedHost := ⟨blank, none⟩

/-- The text that an event reports. -/
def reportOf : HostEvent → Option String
  | .created _ serverInfo => some (macText r serverInfo)
  | .merged _ serverInfo => some (macText r serverInfo)
  | _ => none

/-- The address is that of the last text with one. -/
structure Inv (s : TrackedHost) : Prop where
  macAddress : s.host.macAddress = s.reported.elim [] parseMac
  reported : ∀ text, s.reported = some text → text ≠ noMacText

variable {r toLower} {s : TrackedHost}

theorem inv_note {reported : Option String} (h : ∀ text, reported = some text → text ≠ noMacText)
    (text : String) : ∀ text', note reported text = some text' → text' ≠ noMacText := by
  intro text' heq
  rw [note] at heq
  split at heq
  · exact h text' heq
  · rename_i hne
    exact Option.some.inj heq ▸ hne

theorem update_macAddress (c that : NvComputer) :
    (c.update toLower that).1.macAddress =
      if that.macAddress = [] then c.macAddress else that.macAddress := by
  have hassigns : (runAssignments that (c, false) (assignments.take 1 ++
      assignIfChanged NvComputer.macAddress (fun c v => { c with macAddress := v })
        (fun _ that => !that.macAddress.isEmpty) :: assignments.drop 2)).1.macAddress =
      if (!that.macAddress.isEmpty) = true then that.macAddress else c.macAddress :=
    runAssignments_assigns (by simp [assignments, assignIfChanged])
      (by simp [assignments, assignIfChanged]) (fun _ _ => rfl) (fun _ => rfl) _
  rw [update_eq]
  refine hassigns.trans ?_
  by_cases hempty : that.macAddress = [] <;> simp [hempty]

theorem restored_macAddress (settings : QSettings) (before : List NvComputer) (host : NvComputer)
    (after : List NvComputer) :
    (restored toLower settings before host after).macAddress = host.macAddress := by
  have hpersisted := congrArg (fun l : List PersistedTraits => l[before.length]?)
    (@persisted_restoredHosts toLower ⟨before ++ host :: after, before ++ host :: after⟩ settings)
  simp only [List.getElem?_map, List.getElem?_append_right (Nat.le_refl _), Nat.sub_self,
    List.getElem?_cons_zero, Option.map_some] at hpersisted
  obtain ⟨c, hc, heq⟩ := Option.map_eq_some_iff.mp hpersisted
  rw [restored, hc, Option.getD_some]
  exact congrArg PersistedTraits.macAddress heq

theorem inv_step (h : Inv s) (e : HostEvent) : Inv (step r toLower s e) := by
  cases e with
  | created http serverInfo =>
      refine ⟨?_, inv_note (fun _ h => by cases h) _⟩
      show parseMac (macText r serverInfo) = (note none (macText r serverInfo)).elim [] parseMac
      rw [note]
      split
      · rename_i hnone
        exact parseMac_eq_nil.mpr hnone
      · rfl
  | merged http serverInfo =>
      refine ⟨?_, inv_note h.reported _⟩
      show (s.host.update toLower (ofServerInfo r http serverInfo)).1.macAddress =
        (note s.reported (macText r serverInfo)).elim [] parseMac
      rw [update_macAddress, note, show (ofServerInfo r http serverInfo).macAddress =
        parseMac (macText r serverInfo) from rfl]
      by_cases hnone : macText r serverInfo = noMacText
      · rw [if_pos (parseMac_eq_nil.mpr hnone), if_pos hnone]
        exact h.macAddress
      · rw [if_neg (mt parseMac_eq_nil.mp hnone), if_neg hnone]
        rfl
  | changed f => exact ⟨h.macAddress, h.reported⟩
  | restarted settings before after =>
      exact ⟨(restored_macAddress settings before s.host after).trans h.macAddress, h.reported⟩

/-- The address is empty, or it is the six octets that were reported last, and `wake` sends the
packet for them. -/
structure WellFormed (s : TrackedHost) : Prop where
  macAddress : s.host.macAddress = [] ∨ s.host.macAddress.length = 6 ∧
    ∃ text, s.reported = some text ∧ reportedOctets text = some s.host.macAddress
  wake : ∀ payload, s.host.wake = .sends payload → payload.length = 102 ∧
    ∃ text octets, s.reported = some text ∧ reportedOctets text = some octets ∧
      payload = magicPacket octets

theorem wellFormed_iff (h : Inv s) :
    WellFormed s ↔ ∀ text, s.reported = some text → WellReported text := by
  constructor
  · intro hwell text htext
    have hmac := h.macAddress
    rw [htext] at hmac
    rcases hwell.macAddress with hempty | ⟨hlength, text', htext', hoctets⟩
    · exact .inl (parseMac_eq_nil.mp (hmac.symm.trans hempty))
    · obtain rfl := Option.some.inj (htext.symm.trans htext')
      exact .inr ⟨_, hoctets, hlength⟩
  · intro hreported
    have hmac := h.macAddress
    cases htext : s.reported with
    | none =>
        rw [htext] at hmac
        exact ⟨.inl hmac, fun payload hpayload => absurd hmac (wake_sends.mp hpayload).2.1⟩
    | some text =>
        have hnone := h.reported text htext
        obtain ⟨octets, hoctets, hlength⟩ := (hreported text htext).resolve_left hnone
        rw [htext] at hmac
        replace hmac : s.host.macAddress = octets :=
          hmac.trans (parseMac_of_octets hnone hoctets)
        refine ⟨.inr ⟨hmac ▸ hlength, text, htext, hmac ▸ hoctets⟩, fun payload hpayload => ?_⟩
        have hpacket := (wake_sends.mp hpayload).2.2
        rw [hmac] at hpacket
        exact ⟨hpacket ▸ length_magicPacket hlength, text, octets, htext, hoctets, hpacket⟩

/-- The event reports a text that is neither six octets nor no address. -/
def Malformed (r : ServerInfoReader) (e : HostEvent) : Prop :=
  ∃ text, reportOf r e = some text ∧ ¬ WellReported text

theorem forall_note {reported : Option String} {text : String}
    (h : ∀ text, reported = some text → WellReported text) :
    (∀ text', note reported text = some text' → WellReported text') ↔ WellReported text := by
  rw [note]
  by_cases hnone : text = noMacText
  · rw [if_pos hnone]
    exact iff_of_true h (.inl hnone)
  · rw [if_neg hnone]
    simp

theorem wellFormed_step (h : Inv s) (hwell : WellFormed s) (e : HostEvent) :
    WellFormed (step r toLower s e) ↔ ¬ Malformed r e := by
  rw [wellFormed_iff (inv_step h e)]
  rw [wellFormed_iff h] at hwell
  cases e with
  | created http serverInfo =>
      refine (forall_note fun _ h => by cases h).trans ?_
      simp [Malformed, reportOf]
  | merged http serverInfo =>
      refine (forall_note hwell).trans ?_
      simp [Malformed, reportOf]
  | changed f => exact iff_of_true hwell (by simp [Malformed, reportOf])
  | restarted settings before after => exact iff_of_true hwell (by simp [Malformed, reportOf])

/-- **Payloads that wake.** In every state of a history the address is empty or the six octets
reported, and what `wake` sends is the packet for it, exactly where no reply of the history has
another text. -/
theorem wake_wellFormed_iff (r : ServerInfoReader) (toLower : String → String)
    (es : List HostEvent) :
    (∀ pre, pre <+: es → WellFormed (Trace.run (step r toLower) start pre)) ↔
      ∀ e ∈ es, ∀ text, reportOf r e = some text → WellReported text := by
  have hstart : Inv start := ⟨rfl, fun _ h => by cases h⟩
  have hempty : WellFormed start := (wellFormed_iff hstart).mpr fun _ h => by cases h
  rw [@Trace.run_invariant_iff _ _ (step r toLower) Inv WellFormed (fun _ e => Malformed r e)
    (fun _ e h => inv_step h e) (fun _ e h hwell => wellFormed_step h hwell e) start hstart hempty
    es]
  have hgood (e : HostEvent) : ¬ Malformed r e ↔
      ∀ text, reportOf r e = some text → WellReported text := by
    simp [Malformed]
  simp only [hgood]
  constructor
  · intro h e he
    obtain ⟨pre, post, rfl⟩ := List.append_of_mem he
    exact Trace.allSteps_iff.mp h pre e post rfl
  · exact fun h => Trace.AllSteps.of_forall h _

/-- A reply without an address, and one with four octets. -/
def macReader : ServerInfoReader where
  xml := ⟨fun serverInfo => if serverInfo = "" then [] else [⟨"mac", [], "0a:00:27:15"⟩],
    fun _ => []⟩
  tokens _ := []
  isGfeVersionSupported _ := true
  scmH264 := 1

/-- The host of such a reply has an address of one byte or of four, and when it is offline `wake`
sends 22 bytes or 70. -/
theorem mac_malformed :
    let http : NvHttp String := ⟨⟨"192.168.0.2", 47989⟩, 47984, none, "", true⟩
    let offline : HostEvent := .changed fun c => { c with state := .offline }
    let s := Trace.run (step macReader id) start [.created http "", offline]
    let s' := Trace.run (step macReader id) start [.created http "reply", offline]
    (s.host.macAddress = [0] ∧ s.host.wake = .sends (magicPacket [0]) ∧
        (magicPacket [0]).length = 22 ∧ ¬ WellFormed s) ∧
      s'.host.macAddress = [10, 0, 39, 21] ∧ s'.host.wake = .sends (magicPacket [10, 0, 39, 21]) ∧
        (magicPacket [10, 0, 39, 21]).length = 70 ∧ ¬ WellFormed s' := by
  intro http offline s s'
  have hmac : s.host.macAddress = [0] := by decide +kernel
  have hmac' : s'.host.macAddress = [10, 0, 39, 21] := by decide +kernel
  have hwake : s.host.wake = .sends (magicPacket [0]) := by decide +kernel
  have hwake' : s'.host.wake = .sends (magicPacket [10, 0, 39, 21]) := by decide +kernel
  refine ⟨⟨hmac, hwake, by decide, fun h => ?_⟩, hmac', hwake', by decide, fun h => ?_⟩
  · exact absurd (h.wake _ hwake).1 (by decide)
  · exact absurd (h.wake _ hwake').1 (by decide)

end TrackedHost

end GilStreaming.Client
