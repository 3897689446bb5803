import GoproGateway.Wifi.ConnectAp

/-! Which access point is chosen.

The names are compared up to the length of the shorter one. So the search stops at the first
access point whose name is a prefix of the configured one, or has it as a prefix.
-/

namespace GoproGateway

/-- What an access point's flags ask for. -/
inductive Connects where
  | nothing
  | saved
  | new
  deriving DecidableEq, Repr

def ApEntry.connects (entry : ApEntry) : Connects :=
  if entry.flags &&& scanFlagAssociated ≠ 0 then .nothing
  else if entry.flags &&& scanFlagConfigured ≠ 0 then .saved
  else .new

/-- The name is the configured one, or one of them starts with the other. -/
def ApEntry.SharesPrefix (entry : ApEntry) (configured : List UInt8) : Prop :=
  entry.name ≠ [] ∧ (entry.name <+: configured ∨ configured <+: entry.name)

instance (entry : ApEntry) (configured : List UInt8)
    : Decidable (entry.SharesPrefix configured) :=
  inferInstanceAs (Decidable (_ ∧ _))

/-- What the first entry that satisfies a condition asks for; nothing, if there is none. -/
def connectsFirst (condition : ApEntry → Bool) (entries : List ApEntry) : Connects :=
  (entries.find? condition).elim .nothing ApEntry.connects

section Choice

variable (encode : ConnectRequest → List UInt8) (strings : StateStrings)

/-- The request, if any, with the configured credentials. -/
def Connects.sends : Connects → List BigData
  | .nothing => []
  | .saved =>
      [⟨encode (.connect (strings.text .cohnWifiSsid)), gpCntrlHandleNet, 0x02, 0x04⟩]
  | .new =>
      [⟨encode (.connectNew (strings.text .cohnWifiSsid) (strings.text .cohnWifiPass)),
        gpCntrlHandleNet, 0x02, 0x05⟩]

/-- The configured access point is chosen: the first entry with its name decides, and without one
nothing is sent. `ignores` says what this means for the list, and follows from the other two:
entries that share a prefix of the name only might as well not be in it.
-/
structure ChoosesConfigured (entries : List ApEntry) : Prop where
  acts : ∀ entry, entries.find? (·.name = strings.text .cohnWifiSsid) = some entry
    → goproConnectAp encode strings entries = entry.connects.sends encode strings
  silent : entries.find? (·.name = strings.text .cohnWifiSsid) = none
    → goproConnectAp encode strings entries = []
  ignores : goproConnectAp encode strings entries
    = goproConnectAp encode strings (entries.filter fun entry =>
        entry.name = strings.text .cohnWifiSsid
          ∨ ¬ entry.SharesPrefix (strings.text .cohnWifiSsid))

-----------------------------------------------------------------------------------------
-- Flags
-----------------------------------------------------------------------------------------

theorem and_singleBit {mask : Int32} {bit : Nat} (single : mask.toBitVec = BitVec.twoPow 32 bit)
    (flags : Int32)
    : flags &&& mask = mask ∨ flags &&& mask = 0 := by
  have bits : (flags &&& mask).toBitVec
      = if flags.toBitVec.getLsbD bit then mask.toBitVec else 0#32 := by
    rw [Int32.toBitVec_and, single, BitVec.and_twoPow]
  by_cases flagged : flags.toBitVec.getLsbD bit = true
  · rw [if_pos flagged] at bits
    exact .inl (Int32.toBitVec_inj.mp bits)
  · rw [if_neg flagged] at bits
    exact .inr (Int32.toBitVec_inj.mp bits)

/-- Below the sign, a flag is set iff what is left of the flags is positive. -/
theorem and_singleBit_pos_iff {mask : Int32} {bit : Nat}
    (single : mask.toBitVec = BitVec.twoPow 32 bit) (positive : mask > 0) (flags : Int32)
    : flags &&& mask > 0 ↔ flags &&& mask ≠ 0 := by
  rcases and_singleBit single flags with flagged | clear
  · rw [flagged]
    exact iff_of_true positive (Int32.ne_of_lt positive).symm
  · rw [clear]
    decide

theorem connectFound_eq (entry : ApEntry)
    : connectFound encode strings entry = entry.connects.sends encode strings := by
  have associated := and_singleBit_pos_iff
    (show scanFlagAssociated.toBitVec = BitVec.twoPow 32 3 from rfl) (by decide) entry.flags
  have configured := and_singleBit_pos_iff
    (show scanFlagConfigured.toBitVec = BitVec.twoPow 32 1 from rfl) (by decide) entry.flags
  simp only [connectFound, ApEntry.connects, associated, configured]
  split_ifs <;> rfl

-----------------------------------------------------------------------------------------
-- The search
-----------------------------------------------------------------------------------------

theorem take_min_eq_iff {left right : List UInt8}
    : left.take (min left.length right.length) = right.take (min left.length right.length)
      ↔ left <+: right ∨ right <+: left := by
  rcases Nat.le_total left.length right.length with le | le
  · rw [Nat.min_eq_left le, List.take_length, ← List.prefix_iff_eq_take]
    refine ⟨.inl, ?_⟩
    rintro (shorter | longer)
    · exact shorter
    · obtain rfl := longer.eq_of_length_le le
      exact List.prefix_rfl
  · rw [Nat.min_eq_right le, List.take_length, eq_comm, ← List.prefix_iff_eq_take]
    refine ⟨.inr, ?_⟩
    rintro (longer | shorter)
    · obtain rfl := longer.eq_of_length_le le
      exact List.prefix_rfl
    · exact shorter

variable {encode strings}

/-- The entry at the front is taken iff it shares a prefix. -/
theorem goproConnectAp_cons (named : strings.text .cohnWifiSsid ≠ []) (entry : ApEntry)
    (rest : List ApEntry)
    : goproConnectAp encode strings (entry :: rest)
      = if entry.SharesPrefix (strings.text .cohnWifiSsid) then
          connectFound encode strings entry
        else goproConnectAp encode strings rest := by
  have isMin : (if (strings.text .cohnWifiSsid).length > entry.name.length then
        entry.name.length
      else (strings.text .cohnWifiSsid).length)
      = min entry.name.length (strings.text .cohnWifiSsid).length := by
    split_ifs <;> omega
  have isZero : min entry.name.length (strings.text .cohnWifiSsid).length = 0
      ↔ entry.name = [] := by
    have some := List.length_pos_iff.mpr named
    rw [← List.length_eq_zero_iff]
    omega
  have same : CString.strncmp (entry.ssid ++ entry.behind)
        (strings.bytes.drop StringField.cohnWifiSsid.offset)
        (min entry.name.length (strings.text .cohnWifiSsid).length) = 0
      ↔ entry.name <+: strings.text .cohnWifiSsid
        ∨ strings.text .cohnWifiSsid <+: entry.name :=
    (CString.strncmp_eq_zero_iff (Nat.min_le_left _ _) (Nat.min_le_right _ _)).trans
      take_min_eq_iff
  have search : goproConnectAp encode strings (entry :: rest)
      = if min entry.name.length (strings.text .cohnWifiSsid).length = 0 then
          goproConnectAp encode strings rest
        else if CString.strncmp (entry.ssid ++ entry.behind)
            (strings.bytes.drop StringField.cohnWifiSsid.offset)
            (min entry.name.length (strings.text .cohnWifiSsid).length) = 0 then
          connectFound encode strings entry
        else goproConnectAp encode strings rest := by
    rw [← isMin]
    rfl
  rw [search]
  by_cases empty : entry.name = []
  · rw [if_pos (isZero.mpr empty), if_neg fun shares => shares.1 empty]
  · rw [if_neg (mt isZero.mp empty)]
    exact ite_congr (propext (same.trans (and_iff_right empty).symm)) (fun _ => rfl)
      (fun _ => rfl)

/-- The search is for a shared prefix. -/
theorem goproConnectAp_eq (named : strings.text .cohnWifiSsid ≠ []) (entries : List ApEntry)
    : goproConnectAp encode strings entries
      = (connectsFirst (·.SharesPrefix (strings.text .cohnWifiSsid)) entries).sends
          encode strings := by
  induction entries with
  | nil => rfl
  | cons entry rest ih =>
      rw [goproConnectAp_cons named, connectsFirst, List.find?_cons]
      by_cases shares : entry.SharesPrefix (strings.text .cohnWifiSsid)
      · rw [if_pos shares, connectFound_eq, decide_eq_true shares]
        rfl
      · rw [if_neg shares, ih, decide_eq_false shares]
        rfl

theorem Connects.sends_injective {left right : Connects}
    (same : left.sends encode strings = right.sends encode strings)
    : left = right := by
  cases left <;> cases right <;> simp [sends] at same ⊢

/-- Without the entries that only share a prefix, the search is for the name. -/
theorem goproConnectAp_filter (named : strings.text .cohnWifiSsid ≠ []) (entries : List ApEntry)
    : goproConnectAp encode strings (entries.filter fun entry =>
          entry.name = strings.text .cohnWifiSsid
            ∨ ¬ entry.SharesPrefix (strings.text .cohnWifiSsid))
      = (connectsFirst (·.name = strings.text .cohnWifiSsid) entries).sends encode strings := by
  rw [goproConnectAp_eq named, connectsFirst, List.find?_filter, connectsFirst]
  congr 3
  funext entry
  by_cases equal : entry.name = strings.text .cohnWifiSsid
  · simp [equal, ApEntry.SharesPrefix, named]
  · simp [equal]

/-- Where the first entry with the name decides, the ones that only share a prefix do not. -/
theorem ChoosesConfigured.of_acts (named : strings.text .cohnWifiSsid ≠ [])
    {entries : List ApEntry}
    (acts : ∀ entry, entries.find? (·.name = strings.text .cohnWifiSsid) = some entry
      → goproConnectAp encode strings entries = entry.connects.sends encode strings)
    (silent : entries.find? (·.name = strings.text .cohnWifiSsid) = none
      → goproConnectAp encode strings entries = [])
    : ChoosesConfigured encode strings entries := by
  refine ⟨acts, silent, ?_⟩
  rw [goproConnectAp_filter named, connectsFirst]
  cases found : entries.find? (·.name = strings.text .cohnWifiSsid) with
  | none => exact silent found
  | some entry => exact acts entry found

/-- The configured access point is chosen iff the first entry that shares a prefix with its
name asks for the same as the first entry with its name.
-/
theorem goproConnectAp_chooses_iff (encode : ConnectRequest → List UInt8)
    (strings : StateStrings) (named : strings.text .cohnWifiSsid ≠ [])
    (entries : List ApEntry)
    : ChoosesConfigured encode strings entries
      ↔ connectsFirst (·.SharesPrefix (strings.text .cohnWifiSsid)) entries
        = connectsFirst (·.name = strings.text .cohnWifiSsid) entries := by
  constructor
  · intro chooses
    have same := chooses.ignores
    rw [goproConnectAp_eq named, goproConnectAp_filter named] at same
    exact Connects.sends_injective same
  · intro same
    have chosen : goproConnectAp encode strings entries
        = (connectsFirst (·.name = strings.text .cohnWifiSsid) entries).sends encode strings := by
      rw [goproConnectAp_eq named, same]
    refine .of_acts named (fun entry found => ?_) (fun missing => ?_)
    · rw [chosen, connectsFirst, found]
      rfl
    · rw [chosen, connectsFirst, missing]
      rfl

end Choice

/-- An access point with zeros behind its name. -/
def ApEntry.named (name : List UInt8) (flags : Int32) (fits : name.length ≤ maxSsidLen)
    : ApEntry where
  signalFrequencyMhz := 2412
  signalStrengthBars := 3
  flags
  ssid := name ++ List.replicate (maxSsidLen - name.length) 0
  ssid_length := by
    rw [List.length_append, List.length_replicate]
    omega
  behind := []

/-- "lab", and then "home", which is configured. -/
theorem goproConnectAp_chooses_home
    : ChoosesConfigured referenceEncode
        (StateStrings.zero.put .cohnWifiSsid [0x68, 0x6F, 0x6D, 0x65])
        [.named [0x6C, 0x61, 0x62] scanFlagAssociated (by decide),
          .named [0x68, 0x6F, 0x6D, 0x65] scanFlagConfigured (by decide)] :=
  (goproConnectAp_chooses_iff referenceEncode
    (StateStrings.zero.put .cohnWifiSsid [0x68, 0x6F, 0x6D, 0x65]) (by decide +kernel) _).mpr
    (by decide +kernel)

/-- "home" stands in front of "home-5G", which the camera knows: it is told to connect to a new
network.
-/
theorem goproConnectAp_takes_other
    : ¬ ∀ (encode : ConnectRequest → List UInt8) (strings : StateStrings),
      strings.text .cohnWifiSsid ≠ []
      → ∀ entries, ChoosesConfigured encode strings entries := by
  intro every
  have chooses := every referenceEncode
    (StateStrings.zero.put .cohnWifiSsid [0x68, 0x6F, 0x6D, 0x65, 0x2D, 0x35, 0x47])
    (by decide +kernel)
    [.named [0x68, 0x6F, 0x6D, 0x65] 0 (by decide),
      .named [0x68, 0x6F, 0x6D, 0x65, 0x2D, 0x35, 0x47] scanFlagConfigured (by decide)]
  have saved := chooses.acts
    (.named [0x68, 0x6F, 0x6D, 0x65, 0x2D, 0x35, 0x47] scanFlagConfigured (by decide))
    (by decide +kernel)
  exact absurd saved (by decide +kernel)

end GoproGateway
