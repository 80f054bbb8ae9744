import PicowDayClock.Library.FormUrlencoded
import PicowDayClock.RequestText
import PicowDayClock.AccessPoint

/-! A form that a browser encodes and posts in one segment, and the
configuration that comes out at the other end. -/
namespace PicowDayClock.FormRoundTrip
open ConfigForm FormUrlencoded Wifi RequestText
open AccessPoint (plainSession)

/-! ## The fields of the form -/

/-- The fields a configuration is submitted with. -/
inductive Key where
  | ssid | pwd | ntp | tz | dst | cto | port
  deriving DecidableEq

def Key.name : Key → Bytes
  | .ssid => ascii "ssid"
  | .pwd => ascii "pwd"
  | .ntp => ascii "ntp"
  | .tz => ascii "tz"
  | .dst => ascii "dst"
  | .cto => ascii "cto"
  | .port => ascii "port"

/-- The names need no encoding. -/
theorem Key.name_plain (key : Key) :
    0x26 ∉ key.name ∧ 0x3D ∉ key.name ∧ NulFree key.name := by
  cases key <;> decide

/-- The numbers a field may hold, if it holds a number. -/
def Key.range : Key → Option (Int × Int)
  | .tz => some (-720, 840)
  | .cto => some (1000, 60000)
  | .port => some (1, 65535)
  | _ => none

/-- No value for this field: it is empty, not a number to its end, or out of range. -/
def Key.Invalid (key : Key) (value : Bytes) : Prop :=
  ∃ range ∈ key.range, value = [] ∨ (strtol value).2 ≠ [] ∨
    (strtol value).1 < range.1 ∨ range.2 < (strtol value).1

instance (key : Key) (value : Bytes) : Decidable (key.Invalid value) :=
  inferInstanceAs (Decidable (∃ range ∈ key.range, _))

/-- The names of the daylight saving rules. -/
def ruleNames : List (Bytes × DstRule) :=
  [(ascii "NA", .na), (ascii "EU", .eu), (ascii "AU", .au), (ascii "NZ", .nz),
    (ascii "CL", .cl), (ascii "IL", .il)]

/-- The rule with this name. Any other text names no rule. -/
def ruleNamed (name : Bytes) : DstRule := (ruleNames.lookup name).getD .none

/-- A configuration with one field set: a text cut to its capacity and with NULs
up to there, a number as it is, a rule by its name. -/
def enter (config : FlashConfig) (key : Key) (value : Bytes) : FlashConfig :=
  match key with
  | .ssid => { config with wifiSsid := config.wifiSsid.overwritten 32 (by decide) value }
  | .pwd => { config with wifiPassword := config.wifiPassword.overwritten 63 (by decide) value }
  | .ntp => { config with ntpServer := config.ntpServer.overwritten 64 (by decide) value }
  | .tz => { config with tzOffsetMins := (strtol value).1 }
  | .dst => { config with dstRule := ruleNamed value }
  | .cto => { config with ntpTimeout := (strtol value).1.toNat }
  | .port => { config with ntpPort := (strtol value).1.toNat }

/-- The fields set one after the other. -/
def enterAll (config : FlashConfig) (pairs : List (Key × Bytes)) : FlashConfig :=
  pairs.foldl (fun config pair => enter config pair.1 pair.2) config

/-- The last byte of each text field is a NUL. -/
structure TextsEnd (config : FlashConfig) : Prop where
  ssid : config.wifiSsid.EndsInNul
  password : config.wifiPassword.EndsInNul
  ntpServer : config.ntpServer.EndsInNul

/-- What a text field reads as. -/
def textOf (config : FlashConfig) : Key → Option Bytes
  | .ssid => some config.wifiSsid.text
  | .pwd => some config.wifiPassword.text
  | .ntp => some config.ntpServer.text
  | _ => none

/-- How many bytes a text field has before its last. -/
def Key.capacity : Key → Nat
  | .ssid => 32
  | .pwd => 63
  | .ntp => 64
  | _ => 0

/-- The last value given for a field. -/
def lastValue (pairs : List (Key × Bytes)) (key : Key) : Option Bytes :=
  (pairs.reverse.find? fun pair => pair.1 = key).map (·.2)

/-- What arrives of a value: it ends at a NUL, and line breaks at its end are
dropped. -/
def received (value : Bytes) : Bytes :=
  cstr (value.rdropWhile fun byte => byte = 0x0D ∨ byte = 0x0A)

/-- The fields set one after the other, as far as their numbers are valid. -/
def applyFields (config : FlashConfig) (pairs : List (Bytes × Bytes)) : Option FlashConfig :=
  pairs.foldlM (fun config pair => applyField config pair.1 (received pair.2)) config

/-- A value that survives the form: a text without NUL that does not end in a
line break. -/
structure Submittable (value : Bytes) : Prop where
  nulFree : NulFree value
  noReturn : value.getLast? ≠ some 0x0D
  noFeed : value.getLast? ≠ some 0x0A

instance (value : Bytes) : Decidable (Submittable value) :=
  decidable_of_iff
    (NulFree value ∧ value.getLast? ≠ some 0x0D ∧ value.getLast? ≠ some 0x0A)
    ⟨fun ⟨free, return_, feed⟩ => ⟨free, return_, feed⟩,
      fun kept => ⟨kept.nulFree, kept.noReturn, kept.noFeed⟩⟩

/-! ## Decoding -/

theorem hexToInt_digit {number : Nat} {digit : Byte} (spelt : HexDigit number digit) :
    hexToInt digit = UInt8.ofNat number := by
  have below : number < 16 := by
    rcases spelt with upper | lower
    · exact (List.getElem?_eq_some_iff.mp upper).1
    · exact (List.getElem?_eq_some_iff.mp lower).1
  have upper : ∀ number < 16, ((ascii "0123456789ABCDEF")[number]?).map hexToInt =
      some (UInt8.ofNat number) := by decide
  have lower : ∀ number < 16, ((ascii "0123456789abcdef")[number]?).map hexToInt =
      some (UInt8.ofNat number) := by decide
  rcases spelt with found | found
  · simpa [found] using upper number below
  · simpa [found] using lower number below

/-- The two digits of an escape make its byte. -/
theorem hex_pair (byte : Byte) :
    (UInt8.ofNat (byte.toNat / 16) <<< 4) ||| UInt8.ofNat (byte.toNat % 16) = byte := by
  have all : ∀ number < 256, (UInt8.ofNat (number / 16) <<< 4) ||| UInt8.ofNat (number % 16) =
      UInt8.ofNat number := by decide +kernel
  simpa using all byte.toNat byte.toNat_lt

theorem urldecode_cons {byte : Byte} (plain : byte ≠ 0x25) (rest : Bytes) :
    urldecode (byte :: rest) = decodePlain byte :: urldecode rest := by
  match rest with
  | [] => rfl
  | [_] => rfl
  | _ :: _ :: _ => rw [urldecode, if_neg plain]

theorem urldecode_encoded (encoded : Encoded value text) : urldecode text = value := by
  induction encoded with
  | nil => rfl
  | itself byte plain rest ih =>
    have other : byte ≠ 0x25 ∧ byte ≠ 0x2B := by
      constructor <;>
      · rintro rfl
        exact plain (by decide)
    rw [urldecode_cons other.1, ih, decodePlain, if_neg other.2]
  | space rest ih =>
    rw [urldecode_cons (by decide), ih]
    rfl
  | escaped byte hi lo high low rest ih =>
    rw [urldecode, if_pos rfl, ih, hexToInt_digit high, hexToInt_digit low, hex_pair]

/-- Nothing at its end is dropped. -/
theorem Submittable.received (kept : Submittable value) : received value = value := by
  have whole : (value.rdropWhile fun byte => byte = 0x0D ∨ byte = 0x0A) = value := by
    rw [List.rdropWhile_eq_self_iff]
    intro nonempty break_
    have last := List.getLast?_eq_some_getLast nonempty
    simp only [decide_eq_true_eq] at break_
    rcases break_ with return_ | feed
    · exact kept.noReturn (by rw [last, return_])
    · exact kept.noFeed (by rw [last, feed])
  rw [FormRoundTrip.received, whole, cstr_of_nulFree kept.nulFree]

/-! ## Fields -/

/-- A table is searched from its first name on. -/
theorem lookup_cons_getD (name value : Bytes) (rule : DstRule) (rest : List (Bytes × DstRule)) :
    (((name, rule) :: rest).lookup value).getD .none =
      if value = name then rule else (rest.lookup value).getD .none := by
  by_cases same : value = name
  · simp [same]
  · have other : (value == name) = false := beq_false_of_ne same
    simp only [List.lookup_cons, other, if_neg same]

/-- The comparisons of the `dst` field are a look into the table of names. -/
theorem dstRuleOf_eq (value : Bytes) : dstRuleOf value = ruleNamed value := by
  unfold dstRuleOf ruleNamed ruleNames
  simp only [lookup_cons_getD, List.lookup_nil, Option.getD_none]

/-- The bounds of `parse_long_bounded` are the field's range. -/
theorem parseLongBounded_of_range {key : Key} {low high : Int}
    (range : key.range = some (low, high)) (value : Bytes) :
    parseLongBounded value low high =
      if key.Invalid value then none else some (strtol value).1 := by
  have invalid : key.Invalid value ↔ value = [] ∨ (strtol value).2 ≠ [] ∨
      (strtol value).1 < low ∨ high < (strtol value).1 := by
    simp [Key.Invalid, range]
  unfold parseLongBounded
  dsimp only
  by_cases empty : value = []
  · rw [if_pos empty, if_pos (invalid.mpr (.inl empty))]
  · by_cases whole : (strtol value).2 = []
    · by_cases outside : (strtol value).1 < low ∨ high < (strtol value).1
      · simp [invalid, empty, whole, outside]
      · simp [invalid, empty, whole, outside]
    · simp [invalid, empty, whole]

/-- The branch of each name. -/
theorem applyField_name (config : FlashConfig) (key : Key) (value : Bytes) :
    applyField config key.name value =
      match key with
      | .ssid => some { config with wifiSsid := config.wifiSsid.strncpy value 32 }
      | .pwd => some { config with wifiPassword := config.wifiPassword.strncpy value 63 }
      | .ntp => some { config with ntpServer := config.ntpServer.strncpy value 64 }
      | .tz => (parseLongBounded value (-720) 840).map fun number =>
          { config with tzOffsetMins := number }
      | .dst => some { config with dstRule := dstRuleOf value }
      | .cto => (parseLongBounded value 1000 60000).map fun number =>
          { config with ntpTimeout := number.toNat }
      | .port => (parseLongBounded value 1 65535).map fun number =>
          { config with ntpPort := number.toNat } := by
  cases key <;> rfl

theorem applyField_eq (config : FlashConfig) (key : Key) (value : Bytes) :
    applyField config key.name value =
      if key.Invalid value then none else some (enter config key value) := by
  have text : key.range = none → ¬ key.Invalid value := by
    rintro none_ ⟨range, member, -⟩
    rw [none_] at member
    cases member
  have number : ∀ {low high : Int} (set : Int → FlashConfig), key.range = some (low, high) →
      set (strtol value).1 = enter config key value →
      (parseLongBounded value low high).map set =
        if key.Invalid value then none else some (enter config key value) := by
    intro low high set range same
    rw [parseLongBounded_of_range range, ← same]
    split <;> rfl
  rw [applyField_name]
  cases key with
  | ssid =>
    rw [if_neg (text rfl)]
    simp only [enter, CharArray.strncpy_eq_overwritten _ (show 32 ≤ wifiSsidMaxLen + 1 by decide)]
  | pwd =>
    rw [if_neg (text rfl)]
    simp only [enter,
      CharArray.strncpy_eq_overwritten _ (show 63 ≤ wifiPasswordMaxLen + 1 by decide)]
  | ntp =>
    rw [if_neg (text rfl)]
    simp only [enter, CharArray.strncpy_eq_overwritten _ (show 64 ≤ hostnameMaxLen + 1 by decide)]
  | dst => rw [if_neg (text rfl), enter, ← dstRuleOf_eq]
  | tz => exact number _ rfl rfl
  | cto => exact number _ rfl rfl
  | port => exact number _ rfl rfl

/-! ## The loop -/

/-- A piece of the body sets its field. -/
theorem applyPair_encoded (config : FlashConfig) {pair : Bytes × Bytes} (plain : 0x3D ∉ pair.1)
    (spelt : EncodedPair pair piece) :
    applyPair config piece = applyField config pair.1 (received pair.2) := by
  obtain ⟨text, encoded, rfl⟩ := spelt
  have rest : (pair.1 ++ 0x3D :: text).drop (pair.1.length + 1) = text := by
    rw [← List.drop_drop, List.drop_left, List.drop_one, List.tail_cons]
  rw [applyPair, strchr_behind plain]
  dsimp only
  rw [List.take_left, rest, urldecodeInplace, urldecode_encoded encoded]
  rfl

theorem applyPairs_encoded (config : FlashConfig) {pairs : List (Bytes × Bytes)}
    (plain : ∀ pair ∈ pairs, 0x3D ∉ pair.1) (spelt : List.Forall₂ EncodedPair pairs pieces) :
    applyPairs config pieces = applyFields config pairs := by
  induction spelt generalizing config with
  | nil => rfl
  | cons first rest ih =>
    rw [List.forall_mem_cons] at plain
    rw [applyPairs, applyPair_encoded config plain.1 first, applyFields, List.foldlM_cons]
    congr 1
    funext next
    exact ih next plain.2

/-- The configuration that a form of any fields submits. -/
theorem submitted_encoded (flashConfig : Option FlashConfig) {pairs : List (Bytes × Bytes)}
    (plain : ∀ pair ∈ pairs, 0x26 ∉ pair.1 ∧ 0x3D ∉ pair.1) (encoded : EncodedForm pairs body) :
    submitted flashConfig body = applyFields (baseConfig flashConfig) pairs := by
  obtain ⟨pieces, spelt, rfl⟩ := encoded
  have shape := pieces_shape spelt fun pair member => (plain pair member).1
  rw [submitted, strtokTokens_intercalate (fun piece member => (shape piece member).1)
    (fun piece member => (shape piece member).2)]
  exact applyPairs_encoded _ (fun pair member => (plain pair member).2) spelt

/-- A list of fields and their values as names and values. -/
def named (pairs : List (Key × Bytes)) : List (Bytes × Bytes) :=
  pairs.map fun pair => (pair.1.name, pair.2)

/-- The fields are set one after the other, unless one is invalid. -/
theorem applyFields_named (config : FlashConfig) {pairs : List (Key × Bytes)}
    (kept : ∀ pair ∈ pairs, Submittable pair.2) :
    applyFields config (named pairs) =
      if ∃ pair ∈ pairs, pair.1.Invalid pair.2 then none else some (enterAll config pairs) := by
  induction pairs generalizing config with
  | nil => simp [named, applyFields, enterAll]
  | cons pair pairs ih =>
    have pairKept := kept pair List.mem_cons_self
    have restKept := fun other member => kept other (List.mem_cons_of_mem pair member)
    rw [named, List.map_cons, applyFields, List.foldlM_cons, pairKept.received, applyField_eq]
    by_cases invalid : pair.1.Invalid pair.2
    · simp [invalid]
    · have later : (∃ other ∈ pair :: pairs, other.1.Invalid other.2) ↔
          ∃ other ∈ pairs, other.1.Invalid other.2 := by simp [invalid]
      rw [if_neg invalid]
      simp only [later]
      exact ih _ restKept

/-- The configuration that comes out of an encoded form. -/
theorem submitted_eq (flashConfig : Option FlashConfig) {pairs : List (Key × Bytes)}
    (kept : ∀ pair ∈ pairs, Submittable pair.2) (encoded : EncodedForm (named pairs) body) :
    submitted flashConfig body =
      if ∃ pair ∈ pairs, pair.1.Invalid pair.2 then none
      else some (enterAll (baseConfig flashConfig) pairs) := by
  have plain : ∀ pair ∈ named pairs, 0x26 ∉ pair.1 ∧ 0x3D ∉ pair.1 := by
    intro pair member
    obtain ⟨⟨key, value⟩, -, rfl⟩ := List.mem_map.mp member
    exact ⟨key.name_plain.1, key.name_plain.2.1⟩
  rw [submitted_encoded flashConfig plain encoded, applyFields_named _ kept]

/-! ## Reading the fields -/

theorem defaults_textsEnd : TextsEnd (baseConfig none) := ⟨rfl, rfl, by decide⟩

theorem enter_textsEnd {config : FlashConfig} (ended : TextsEnd config) (key : Key)
    (value : Bytes) : TextsEnd (enter config key value) := by
  obtain ⟨ssid, password, ntpServer⟩ := ended
  cases key with
  | ssid => exact ⟨CharArray.overwritten_endsInNul ssid (by decide) value, password, ntpServer⟩
  | pwd => exact ⟨ssid, CharArray.overwritten_endsInNul password (by decide) value, ntpServer⟩
  | ntp => exact ⟨ssid, password, CharArray.overwritten_endsInNul ntpServer (by decide) value⟩
  | tz | dst | cto | port => exact ⟨ssid, password, ntpServer⟩

theorem enterAll_textsEnd {config : FlashConfig} (ended : TextsEnd config)
    (pairs : List (Key × Bytes)) : TextsEnd (enterAll config pairs) := by
  induction pairs generalizing config with
  | nil => exact ended
  | cons pair pairs ih => exact ih (enter_textsEnd ended pair.1 pair.2)

/-- The field that is set reads as the value cut to its capacity. -/
theorem textOf_enter_self {config : FlashConfig} (ended : TextsEnd config) {key : Key}
    (free : NulFree value) (text : textOf config key = some old) :
    textOf (enter config key value) key = some (value.take key.capacity) := by
  cases key with
  | ssid => exact congrArg some (CharArray.overwritten_text ended.ssid rfl free)
  | pwd => exact congrArg some (CharArray.overwritten_text ended.password rfl free)
  | ntp => exact congrArg some (CharArray.overwritten_text ended.ntpServer rfl free)
  | tz | dst | cto | port => cases text

/-- Every other field reads as before. -/
theorem textOf_enter_other (config : FlashConfig) {key other : Key} (different : key ≠ other)
    (value : Bytes) : textOf (enter config key value) other = textOf config other := by
  cases key <;> cases other <;> first | rfl | exact absurd rfl different

/-- A text field reads as the last value given for it, or as before. -/
theorem textOf_enterAll {config : FlashConfig} (ended : TextsEnd config)
    {pairs : List (Key × Bytes)} (free : ∀ pair ∈ pairs, NulFree pair.2)
    (text : textOf config key = some old) :
    textOf (enterAll config pairs) key =
      some (((lastValue pairs key).map (·.take key.capacity)).getD old) := by
  induction pairs using List.reverseRecOn with
  | nil => exact text
  | append_singleton pairs pair ih =>
    have before := ih fun other member => free other (List.mem_append_left _ member)
    have pairFree := free pair (List.mem_append_right _ List.mem_cons_self)
    have last : enterAll config (pairs ++ [pair]) =
        enter (enterAll config pairs) pair.1 pair.2 := by
      simp [enterAll]
    rw [last]
    by_cases same : pair.1 = key
    · subst same
      rw [textOf_enter_self (enterAll_textsEnd ended pairs) pairFree before]
      simp [lastValue]
    · rw [textOf_enter_other _ same, before]
      simp [lastValue, same]

/-! ## The request -/

/-- The head of a POST for a body of this length: its first `Content-Length: `
is followed by the length in at most 15 digits, and its first empty line ends it. -/
structure PostHead (head : Bytes) (bodyLen : Nat) : Prop where
  post : isPost head = true
  nulFree : NulFree head
  lengthLine : ∃ before digits after,
    head = before ++ (contentLengthKey ++ (digits ++ (crlf ++ after))) ∧
      strstr head contentLengthKey = some before.length ∧
      digits.all isdigit ∧ digits ≠ [] ∧ digits.length ≤ 15 ∧
      decimalValue digits = bodyLen
  emptyLine : ∃ lines, head = lines ++ (crlf ++ crlf) ∧
    strstr head (crlf ++ crlf) = some lines.length

theorem PostHead.isPost_append (posted : PostHead head bodyLen) (body : Bytes) :
    isPost (head ++ body) = true := by
  have := posted.post
  simp only [isPost, startsWith, List.isPrefixOf_iff_prefix] at this ⊢
  exact this.trans (List.prefix_append head body)

/-- The length is read as it was written. -/
theorem PostHead.expectedBodyLen (posted : PostHead head bodyLen) (small : bodyLen ≤ 8191)
    (body : Bytes) : expectedBodyLen (head ++ body) = some (bodyLen : Int) := by
  obtain ⟨before, digits, after, shape, first, decimal, nonempty, short, value⟩ := posted.lengthLine
  rw [List.all_eq_true] at decimal
  have keyFound := strstr_append contentLengthKey_ne_nil first body
  have line : (head ++ body).drop before.length =
      (contentLengthKey ++ digits) ++ (crlf ++ (after ++ body)) := by
    rw [shape, List.append_assoc, List.drop_left]
    simp only [List.append_assoc]
  have plain : 0x0D ∉ contentLengthKey ++ digits := by
    rw [List.mem_append, not_or]
    refine ⟨contentLengthKey_line, fun member => ?_⟩
    exact absurd (decimal _ member) (by decide)
  have lineEnd : strstr ((head ++ body).drop before.length) crlf =
      some (contentLengthKey ++ digits).length := by
    rw [line]
    exact strstr_line plain (after ++ body)
  have length := contentLengthKey_length
  have rest : (head ++ body).drop (before.length + 16) = digits ++ (crlf ++ (after ++ body)) := by
    rw [← List.drop_drop, line, List.append_assoc, ← length, List.drop_left]
  have count : (contentLengthKey ++ digits).length - 16 = digits.length := by
    rw [List.length_append, length]
    omega
  have several : 0 < digits.length := List.length_pos_iff.mpr nonempty
  have fits : ¬ (digits.length = 0 ∨ digits.length ≥ 16) := by omega
  have number : strtol digits = ((bodyLen : Int), []) := by
    rw [← value]
    have : (decimalValue digits : Int) ≤ longMax := by
      rw [value, longMax]
      omega
    exact strtol_digits nonempty decimal this
  have bounded : parseLongBounded digits 0 intMax = some (bodyLen : Int) := by
    have inside : ¬ ((bodyLen : Int) < 0 ∨ (bodyLen : Int) > intMax) := by
      rw [intMax]
      omega
    simp only [parseLongBounded, number, nonempty, inside, if_false, ne_eq, not_true]
  simp only [Wifi.expectedBodyLen, keyFound, lineEnd, count, rest, fits, if_false]
  rw [List.take_left, bounded]

theorem PostHead.bodyOf (posted : PostHead head bodyLen) (body : Bytes) :
    bodyOf (head ++ body) = some body := by
  obtain ⟨lines, shape, first⟩ := posted.emptyLine
  have found := strstr_append emptyLine_ne_nil first body
  have length : head.length = lines.length + 4 := by
    rw [shape, List.length_append]
    rfl
  rw [Wifi.bodyOf, found, Option.map_some, ← length, List.drop_left]

theorem PostHead.progress (posted : PostHead head body.length) (small : body.length ≤ 8191) :
    progress (head ++ body) = .complete := by
  simp [Wifi.progress, posted.isPost_append, posted.expectedBodyLen small, posted.bodyOf]

/-- A posted form that is in the buffer is answered with what it leads to. -/
theorem PostHead.reaction (posted : PostHead head body.length) (session : Session) (closes : ErrT)
    (short : (head ++ body).length < tcpIpBufferSize) :
    reaction session closes (head ++ body) =
      (let reply := configReply session (head ++ body)
      ⟨reply.1, reply.2, none, head ++ body⟩) := by
  have small : body.length ≤ 8191 := by
    have : tcpIpBufferSize = 8192 := rfl
    rw [List.length_append] at short
    omega
  simp only [RequestText.reaction, posted.progress small, posted.isPost_append, if_true]

/-- A form posted in one segment on a fresh connection is answered with 400 and
not stored if one of its numbers is invalid. Else the configuration stored is the
base with the fields set one after the other. Over a base whose text fields end
in NUL, each of them then reads as its last value, cut to its capacity. -/
theorem form_round_trip (session : Session) (closes : ErrT) (clientPcb : Pcb)
    (pairs : List (Key × Bytes)) (head body : Bytes)
    (kept : ∀ pair ∈ pairs, Submittable pair.2) (encoded : EncodedForm (named pairs) body)
    (posted : PostHead head body.length) (fits : (head ++ body).length ≤ tcpIpBufferSize - 1) :
    let served := tcpServerRecv session (.fresh clientPcb) (some (head ++ body)) closes
    let config := enterAll (baseConfig session.flashConfig) pairs
    ((∃ pair ∈ pairs, pair.1.Invalid pair.2) →
      served.stores = [] ∧ served.written = badReqMsg) ∧
    ((∀ pair ∈ pairs, ¬ pair.1.Invalid pair.2) →
      served.stores = [config] ∧
        served.written = if session.storeConfig config then successMsg else failMsg) ∧
    (TextsEnd (baseConfig session.flashConfig) → TextsEnd config ∧
      ∀ key old, textOf (baseConfig session.flashConfig) key = some old →
        textOf config key = some (((lastValue pairs key).map (·.take key.capacity)).getD old)) := by
  have short : (head ++ body).length < tcpIpBufferSize := Nat.lt_of_le_of_lt fits (by decide)
  have free : NulFree (head ++ body) := by
    refine posted.nulFree.append (encoded.nulFree ?_)
    intro pair member
    obtain ⟨⟨key, value⟩, there, rfl⟩ := List.mem_map.mp member
    exact ⟨key.name_plain.2.2, (kept _ there).nulFree⟩
  have shown := recv_fresh_shows session clientPcb closes free short
  dsimp only
  rw [shown.stores, shown.written, posted.reaction session closes short]
  simp only [configReply, posted.bodyOf, Option.getD_some, submitted_eq _ kept encoded]
  refine ⟨fun invalid => ?_, fun valid => ?_, fun ends => ⟨enterAll_textsEnd ends pairs, ?_⟩⟩
  · simp only [invalid, if_true, and_self]
  · have none_ : ¬ ∃ pair ∈ pairs, pair.1.Invalid pair.2 := by simpa using valid
    simp only [none_, if_false, and_self]
  · intro key old text
    exact textOf_enterAll ends (fun pair member => (kept pair member).nulFree) text

/-- The head of a POST with a body of 37 bytes. -/
def sampleHead : Bytes := ascii "POST / HTTP/1.1\r\nContent-Length: 37\r\n\r\n"

theorem sampleHead_posted : PostHead sampleHead 37 where
  post := by decide
  nulFree := by decide
  lengthLine := ⟨ascii "POST / HTTP/1.1\r\n", ascii "37", crlf, by decide⟩
  emptyLine := ⟨ascii "POST / HTTP/1.1\r\nContent-Length: 37", by decide⟩

/-- A form with a space, an escape, two numbers and a rule. -/
def sampleForm : List (Key × Bytes) :=
  [(.ssid, ascii "My Net"), (.tz, ascii "-60"), (.dst, ascii "EU"), (.port, ascii "1230")]

def sampleBody : Bytes := ascii "ssid=My+N%65t&tz=-60&dst=EU&port=1230"

theorem sampleForm_encoded : EncodedForm (named sampleForm) sampleBody := by
  have name : Encoded (ascii "My Net") (ascii "My+N%65t") := by
    have word : Encoded (ascii "My") (ascii "My") := encoded_itself (by decide)
    have letter : Encoded (ascii "N") (ascii "N") := encoded_itself (by decide)
    have escape : Encoded (ascii "et") (ascii "%65t") :=
      .escaped 0x65 0x36 0x35 (by decide) (by decide) (encoded_itself (by decide))
    exact word.append (.space (letter.append escape))
  have offset : Encoded (ascii "-60") (ascii "-60") := encoded_itself (by decide)
  have rule : Encoded (ascii "EU") (ascii "EU") := encoded_itself (by decide)
  have port : Encoded (ascii "1230") (ascii "1230") := encoded_itself (by decide)
  refine ⟨[ascii "ssid=My+N%65t", ascii "tz=-60", ascii "dst=EU", ascii "port=1230"], ?_, rfl⟩
  exact .cons ⟨_, name, rfl⟩ (.cons ⟨_, offset, rfl⟩ (.cons ⟨_, rule, rfl⟩
    (.cons ⟨_, port, rfl⟩ .nil)))

theorem sampleForm_stored :
    (tcpServerRecv plainSession (.fresh 0) (some (sampleHead ++ sampleBody)) .ok).stores =
        [enterAll (baseConfig none) sampleForm] ∧
      (enterAll (baseConfig none) sampleForm).wifiSsid.text = ascii "My Net" ∧
      (enterAll (baseConfig none) sampleForm).tzOffsetMins = -60 ∧
      (enterAll (baseConfig none) sampleForm).dstRule = .eu ∧
      (enterAll (baseConfig none) sampleForm).ntpPort = 1230 := by
  have kept : ∀ pair ∈ sampleForm, Submittable pair.2 := by decide
  have fits : (sampleHead ++ sampleBody).length ≤ tcpIpBufferSize - 1 := by decide
  have valid : ∀ pair ∈ sampleForm, ¬ pair.1.Invalid pair.2 := by decide
  refine ⟨?_, by decide, by decide, by decide, by decide⟩
  exact ((form_round_trip plainSession .ok 0 sampleForm sampleHead sampleBody kept
    sampleForm_encoded sampleHead_posted fits).2.1 valid).1

/-- A base whose name of the network is terminated, but not by its last byte. -/
def strayBase : FlashConfig :=
  { baseConfig none with
    wifiSsid := ⟨ascii "home" ++ List.replicate 28 0 ++ [0x58], rfl⟩ }

def strayForm : List (Key × Bytes) := [(.ssid, List.replicate 32 0x61)]

def strayBody : Bytes := ascii "ssid=" ++ List.replicate 32 0x61

/-- A name of 32 bytes set over such a base reads as 33 bytes: the last is still
the one of the base. -/
theorem stray_byte_stays :
    (∀ pair ∈ strayForm, Submittable pair.2) ∧ EncodedForm (named strayForm) strayBody ∧
      PostHead sampleHead strayBody.length ∧
      (sampleHead ++ strayBody).length ≤ tcpIpBufferSize - 1 ∧
      strayBase.wifiSsid.Terminated ∧
      (tcpServerRecv { plainSession with flashConfig := some strayBase } (.fresh 0)
        (some (sampleHead ++ strayBody)) .ok).stores.map (·.wifiSsid.text) =
          [List.replicate 32 0x61 ++ [0x58]] := by
  have spelt : Encoded (List.replicate 32 0x61) (List.replicate 32 0x61) :=
    encoded_itself (by decide)
  have encoded : EncodedForm (named strayForm) strayBody :=
    ⟨[strayBody], .cons ⟨_, spelt, rfl⟩ .nil, rfl⟩
  have free : NulFree (sampleHead ++ strayBody) := by decide
  have fits : (sampleHead ++ strayBody).length < tcpIpBufferSize := by decide
  refine ⟨by decide, encoded, sampleHead_posted, Nat.le_sub_one_of_lt fits, by decide, ?_⟩
  rw [(recv_fresh_shows _ 0 .ok free fits).stores]
  decide +kernel

end PicowDayClock.FormRoundTrip
