import PicowDayClock.Firmware.HtmlTemplate
import PicowDayClock.Library.Template

/-! The page of the access point against its template. A key is compared with the
names of the fields only as far as the key goes, so that one which merely begins
a name stands for that field too. -/
namespace PicowDayClock.TemplateExpansion
open Wifi HtmlTemplate Checked

/-- The placeholders of the page. -/
def pageMarks : Marks where
  first := 0x7B
  others := ascii "TEMPLATE:"
  closing := templateClose
  once := by decide

/-! ## What the keys stand for -/

/-- The fields of the configuration that can be in the page. -/
inductive Field where
  | ssid | password | ntpServer
  deriving DecidableEq

namespace Field

/-- The name in the template, in lower case. -/
def name : Field → Bytes
  | ssid => ascii "ssid"
  | password => ascii "pwd"
  | ntpServer => ascii "ntp"

def textIn (config : FlashConfig) : Field → Bytes
  | ssid => config.wifiSsid.text
  | password => config.wifiPassword.text
  | ntpServer => config.ntpServer.text

/-- The capacity. -/
def capacity : Field → Nat
  | ssid => wifiSsidMaxLen
  | password => wifiPasswordMaxLen
  | ntpServer => hostnameMaxLen

def all : List Field := [ssid, password, ntpServer]

end Field

/-- The field whose name a key is, in any case. -/
def fieldNamed (key : Bytes) : Option Field :=
  Field.all.find? fun field => key.map tolower = field.name

/-- The field that a key resolves to: one whose name it is or begins. -/
def fieldOf (key : Bytes) : Option Field :=
  if key = [] then none else Field.all.find? fun field => key.map tolower <+: field.name

/-- The text of a field, empty without one or without a configuration. -/
def textOf (flashConfig : Option FlashConfig) (field : Option Field) : Bytes :=
  match flashConfig, field with
  | some config, some field => field.textIn config
  | _, _ => []

/-- What the page should have for a key. -/
def namedText (flashConfig : Option FlashConfig) (key : Bytes) : Bytes :=
  textOf flashConfig (fieldNamed key)

/-- What it has. -/
def keyText (flashConfig : Option FlashConfig) (key : Bytes) : Bytes :=
  textOf flashConfig (fieldOf key)

/-- A key that is not the name of the field it resolves to. -/
def Abbreviates (key : Bytes) (field : Field) : Prop :=
  fieldNamed key = none ∧ fieldOf key = some field

theorem equalsIgnoreCase_name (key rest : Bytes) (field : Field) :
    equalsIgnoreCase (key ++ rest) field.name key.length ↔ key.map tolower <+: field.name := by
  have lower : field.name.map tolower = field.name := by
    cases field <;> decide
  rw [equalsIgnoreCase_append, decide_eq_true_iff, List.map_take, lower, List.prefix_iff_eq_take,
    List.length_map]

/-- The replacement of a key is the text of the field it resolves to. -/
theorem replacementFor_key (flashConfig : Option FlashConfig) (key rest : Bytes) :
    replacementFor flashConfig (key ++ rest) key.length = keyText flashConfig key := by
  have ssid := equalsIgnoreCase_name key rest .ssid
  have password := equalsIgnoreCase_name key rest .password
  have ntpServer := equalsIgnoreCase_name key rest .ntpServer
  simp only [Field.name] at ssid password ntpServer
  cases flashConfig with
  | none => rfl
  | some config =>
    simp only [replacementFor, ssid, password, ntpServer, List.length_eq_zero_iff, keyText, fieldOf,
      Field.all, Field.name, List.find?_cons, List.find?_nil]
    by_cases empty : key = []
    · rw [if_pos empty, if_pos empty]
      rfl
    · rw [if_neg empty, if_neg empty]
      split_ifs with isSsid isPassword isNtpServer
      · simp only [isSsid]
        rfl
      · simp only [isSsid, isPassword]
        rfl
      · simp only [isSsid, isPassword, isNtpServer]
        rfl
      · simp only [isSsid, isPassword, isNtpServer]
        rfl

/-- A key that is the name of a field resolves to it. -/
theorem fieldOf_of_named {key : Bytes} {field : Field} (named : fieldNamed key = some field) :
    fieldOf key = some field := by
  have same : key.map tolower = field.name := by
    simpa using List.find?_some named
  have full : key ≠ [] := by
    rintro rfl
    cases field <;> exact absurd same (by decide)
  rw [fieldOf, if_neg full, same]
  cases field <;> rfl

/-- The page has what it should have for a key, unless the key abbreviates the
name of a field that has a text. -/
theorem keyText_eq_iff {flashConfig : Option FlashConfig} {key : Bytes} :
    keyText flashConfig key = namedText flashConfig key ↔
      ∀ field, Abbreviates key field → textOf flashConfig (some field) = [] := by
  have blank : textOf flashConfig none = [] := by
    cases flashConfig <;> rfl
  rw [keyText, namedText]
  cases named : fieldNamed key with
  | some field =>
    rw [fieldOf_of_named named]
    simp [Abbreviates, named]
  | none =>
    rw [blank]
    cases resolved : fieldOf key with
    | none => simp [Abbreviates, resolved, blank]
    | some field => simp [Abbreviates, named, resolved]

theorem namedText_length_le (flashConfig : Option FlashConfig) (key : Bytes) :
    (namedText flashConfig key).length ≤ (keyText flashConfig key).length := by
  rw [keyText, namedText]
  cases named : fieldNamed key with
  | some field => rw [fieldOf_of_named named]
  | none => cases flashConfig <;> exact Nat.zero_le _

theorem nulFree_keyText (flashConfig : Option FlashConfig) (key : Bytes) :
    NulFree (keyText flashConfig key) := by
  rw [keyText]
  cases flashConfig with
  | none => exact List.not_mem_nil
  | some config =>
    cases fieldOf key with
    | none => exact List.not_mem_nil
    | some field => cases field <;> exact CharArray.nulFree_text _

/-! ## The loop -/

section loop

variable {limit : Nat} {flashConfig : Option FlashConfig} {curr out page : Bytes}

/-- A template is expanded if the page fits with its terminator. -/
theorem expandFrom_text {template : Template pageMarks}
    (fits : (out ++ template.expanded (keyText flashConfig)).length < limit) :
    expandFrom limit flashConfig template.text out =
      .ok (out ++ template.expanded (keyText flashConfig)) := by
  induction template generalizing out with
  | plainText tail plain =>
    rw [List.length_append] at fits
    exact expandFrom_tail flashConfig plain fits
  | cons placeholder rest ih =>
    have grown : out ++ (Template.cons placeholder rest).expanded (keyText flashConfig) =
        out ++ placeholder.before ++ keyText flashConfig placeholder.key ++
          rest.expanded (keyText flashConfig) := by
      simp only [Template.expanded_cons, Placeholder.expanded, List.append_assoc]
    have room : out.length + placeholder.before.length +
        (keyText flashConfig placeholder.key).length < limit := by
      rw [grown] at fits
      simp only [List.length_append] at fits
      omega
    rw [grown] at fits ⊢
    rw [← ih fits]
    exact expandFrom_placeholder placeholder.plain placeholder.closed
      (replacementFor_key flashConfig placeholder.key _) room

/-- And nothing else is: every round has scanned a placeholder. -/
theorem template_of_expanded (room : out.length < limit)
    (expanded : expandFrom limit flashConfig curr out = .ok page) :
    ∃ template : Template pageMarks, template.text = curr ∧
      page = out ++ template.expanded (keyText flashConfig) ∧ page.length < limit := by
  fun_induction expandFrom limit flashConfig curr out with
  | case1 out =>
    cases expanded
    exact ⟨.plainText [] rfl, rfl, (List.append_nil page).symm, room⟩
  | case2 | case4 | case5 | case6 => cases expanded
  | case3 curr out some absent fits =>
    cases expanded
    refine ⟨.plainText curr absent, rfl, rfl, ?_⟩
    rw [List.length_append]
    omega
  | case7 curr out some start found fits out' keyStart keyLen closed replacement enough ih =>
    obtain ⟨before, behind, whole, place, plain⟩ := strstr_split (by decide) found
    obtain ⟨key, rest, shape, ends, unclosed⟩ := strchr_split closed
    have written : out' = out ++ before := by
      simp only [out', whole, ← place, List.take_left]
    have starts : behind = keyStart := by
      simp only [keyStart, whole, ← place]
      rw [← List.drop_drop, List.drop_left, List.drop_left]
    have replaced : replacement = keyText flashConfig key := by
      simp only [replacement, shape, ← ends, replacementFor_key]
    have follows : keyStart.drop (keyLen + 1) = rest := by
      rw [shape, ← ends, ← List.drop_drop, List.drop_left, List.drop_one, List.tail_cons]
    obtain ⟨template, text, page', short⟩ := ih (by rw [List.length_append]; omega) expanded
    refine ⟨.cons ⟨before, key, plain, unclosed⟩ template, ?_, ?_, short⟩
    · rw [Template.text_cons, text, follows, whole, starts, shape]
      rfl
    · rw [page', written, replaced]
      simp only [Template.expanded_cons, Placeholder.expanded, List.append_assoc]

/-- Nothing but a template is expanded, and it is expanded exactly if the page
fits with its terminator. -/
theorem expandFrom_eq_ok_iff (room : out.length < limit) :
    expandFrom limit flashConfig curr out = .ok page ↔
      ∃ template : Template pageMarks, template.text = curr ∧
        page = out ++ template.expanded (keyText flashConfig) ∧ page.length < limit := by
  constructor
  · exact template_of_expanded room
  · rintro ⟨template, rfl, rfl, fits⟩
    exact expandFrom_text fits

end loop

/-! ## Into the array -/

/-- The texts of a configuration end within their arrays. -/
structure TextsEnd (config : FlashConfig) : Prop where
  ssid : config.wifiSsid.Terminated
  password : config.wifiPassword.Terminated
  ntpServer : config.ntpServer.Terminated

/-- An array holds the page that the loop makes, with its terminator; where the
loop fails the writing one fails in the same way. -/
def Renders (limit : Nat) (written : Checked (Except ErrT Memory)) : Except ErrT Bytes → Prop
  | .ok page => ∃ memory, written = .ok (.ok memory) ∧ memory.length = limit ∧
      memory.Holds (page ++ [0])
  | .error err => written = .ok (.error err)

theorem replacementIn_ok {flashConfig : Option FlashConfig}
    (ends : ∀ config ∈ flashConfig, TextsEnd config) (keyStart : Bytes) (keyLen : Nat) :
    replacementIn flashConfig keyStart keyLen = .ok (replacementFor flashConfig keyStart keyLen) := by
  cases flashConfig with
  | none => rfl
  | some config =>
    obtain ⟨ssid, password, ntpServer⟩ := ends config rfl
    simp only [replacementIn, replacementFor, CharArray.memory_string ssid,
      CharArray.memory_string password, CharArray.memory_string ntpServer]
    split_ifs <;> rfl

/-- The text in front of a placeholder is copied. -/
theorem prefix_copied {limit start : Nat} {curr out : Bytes}
    (found : strstr curr templateOpen = some start) (fits : out.length + start < limit)
    {bufferOut : Memory} (size : bufferOut.length = limit) (holds : bufferOut.Holds out) :
    ∃ next, bufferOut.write out.length (curr.take start) = .ok next ∧ next.length = limit ∧
      next.Holds (out ++ curr.take start) ∧ (out ++ curr.take start).length = out.length + start := by
  have whole : (curr.take start).length = start := by
    rw [List.length_take, Nat.min_eq_left (strstr_eq_some_iff.mp found).1]
  have inside : out.length + (curr.take start).length ≤ bufferOut.length := by omega
  obtain ⟨next, written, length, held⟩ := holds.write inside
  exact ⟨next, written, length.trans size, held, by rw [List.length_append, whole]⟩

/-- Every copy falls behind what has been written and inside the array. -/
theorem expandInto_renders {limit : Nat} {flashConfig : Option FlashConfig}
    (ends : ∀ config ∈ flashConfig, TextsEnd config) (curr : Bytes) {out : Bytes}
    (room : out.length < limit) :
    ∀ bufferOut : Memory, bufferOut.length = limit → bufferOut.Holds out →
      Renders limit (expandInto limit flashConfig bufferOut curr out.length)
        (expandFrom limit flashConfig curr out) := by
  fun_induction expandFrom limit flashConfig curr out with
  | case1 out =>
    -- the template has come to its end
    intro bufferOut size holds
    obtain ⟨memory, stored, length, held⟩ := holds.store (by omega) 0
    refine ⟨memory, ?_, length.trans size, held⟩
    rw [expandInto, dif_pos rfl, stored]
    rfl
  | case2 curr out some absent large =>
    -- the text behind the last placeholder is too long
    intro bufferOut size holds
    rw [Renders, expandInto, dif_neg some]
    simp only [absent]
    rw [if_pos large]
  | case3 curr out some absent fits =>
    -- it fits, and so does the NUL behind it
    intro bufferOut size holds
    have inside : out.length + curr.length ≤ bufferOut.length := by omega
    obtain ⟨copied, written, length, held⟩ := holds.write inside
    have last : (out ++ curr).length < copied.length := by
      rw [List.length_append]
      omega
    obtain ⟨memory, stored, length', held'⟩ := held.store last 0
    rw [List.length_append] at stored
    refine ⟨memory, ?_, by omega, held'⟩
    rw [expandInto, dif_neg some]
    simp only [absent]
    rw [if_neg fits, written, ok_bind, stored]
    rfl
  | case4 curr out some start found large =>
    -- the text in front of a placeholder is too long
    intro bufferOut size holds
    rw [Renders, expandInto, dif_neg some]
    simp only [found]
    rw [if_pos large]
  | case5 curr out some start found fits keyStart unclosed =>
    -- the placeholder is not closed
    intro bufferOut size holds
    obtain ⟨copied, written, -⟩ := prefix_copied found (by omega) size holds
    rw [Renders, expandInto, dif_neg some]
    simp only [found]
    rw [if_neg fits, written, ok_bind]
    simp only [keyStart] at unclosed
    rw [unclosed]
  | case6 curr out some start found fits out' keyStart keyLen closed replacement large =>
    -- its text is too long
    intro bufferOut size holds
    obtain ⟨copied, written, -, -, place⟩ := prefix_copied found (by omega) size holds
    rw [Renders, expandInto, dif_neg some]
    simp only [found]
    rw [if_neg fits, written, ok_bind]
    simp only [keyStart] at closed
    simp only [closed]
    rw [replacementIn_ok ends, ok_bind, if_pos (by rw [← place]; exact large)]
  | case7 curr out some start found fits out' keyStart keyLen closed replacement enough ih =>
    -- two copies are made, and the next round begins behind them
    intro bufferOut size holds
    obtain ⟨copied, written, length, held, place⟩ := prefix_copied found (by omega) size holds
    have short : (out ++ curr.take start).length + replacement.length < limit :=
      Nat.lt_of_not_le enough
    obtain ⟨replaced, put, length', held'⟩ := held.write (length.symm ▸ Nat.le_of_lt short)
    have later := ih (by rw [List.length_append]; exact short) replaced (length'.trans length) held'
    have round : expandInto limit flashConfig bufferOut curr out.length =
        expandInto limit flashConfig replaced (keyStart.drop (keyLen + 1))
          (out' ++ replacement).length := by
      rw [expandInto, dif_neg some]
      simp only [found]
      rw [if_neg fits, written, ok_bind]
      simp only [keyStart] at closed
      simp only [closed]
      rw [replacementIn_ok ends, ok_bind, if_neg (by rw [← place]; exact enough), ← place, put,
        ok_bind, ← List.length_append]
    rw [round]
    exact later

/-- Whatever is put into the array, it stays as long as it is. -/
theorem expandInto_length {limit : Nat} {flashConfig : Option FlashConfig} {curr : Bytes}
    {bufferOut memory : Memory} {outLen : Nat}
    (expanded : expandInto limit flashConfig bufferOut curr outLen = .ok (.ok memory)) :
    memory.length = bufferOut.length := by
  induction bufferOut, curr, outLen using expandInto.induct limit with
  | case1 bufferOut outLen =>
    rw [expandInto, dif_pos rfl] at expanded
    obtain ⟨stored, store, same⟩ := bind_eq_ok_iff.mp expanded
    cases same
    exact Memory.store_length store
  | case2 bufferOut curr outLen some absent tailLen large =>
    rw [expandInto, dif_neg some] at expanded
    simp only [absent] at expanded
    rw [if_pos large] at expanded
    cases expanded
  | case3 bufferOut curr outLen some absent tailLen fits =>
    rw [expandInto, dif_neg some] at expanded
    simp only [absent] at expanded
    rw [if_neg fits] at expanded
    obtain ⟨copied, write, rest⟩ := bind_eq_ok_iff.mp expanded
    obtain ⟨stored, store, same⟩ := bind_eq_ok_iff.mp rest
    cases same
    exact (Memory.store_length store).trans (Memory.write_length write)
  | case4 bufferOut curr outLen some start found large =>
    rw [expandInto, dif_neg some] at expanded
    simp only [found] at expanded
    rw [if_pos large] at expanded
    cases expanded
  | case5 bufferOut curr outLen some start found fits ih =>
    rw [expandInto, dif_neg some] at expanded
    simp only [found] at expanded
    rw [if_neg fits] at expanded
    obtain ⟨copied, write, rest⟩ := bind_eq_ok_iff.mp expanded
    split at rest
    · cases rest
    · obtain ⟨replacement, -, rest⟩ := bind_eq_ok_iff.mp rest
      split at rest
      · cases rest
      · obtain ⟨replaced, writeReplacement, rest⟩ := bind_eq_ok_iff.mp rest
        exact (ih _ _ _ rest).trans
          ((Memory.write_length writeReplacement).trans (Memory.write_length write))

/-! ## The page -/

/-- A page is what the template should become: the text of the field that a key
names in full in the place of each placeholder, nothing for other keys, and
everything else as it is. -/
def IsReference (flashConfig : Option FlashConfig) (htmlFormTemplate page : Bytes) : Prop :=
  ∃ template : Template pageMarks, template.text = htmlFormTemplate ∧
    template.expanded (namedText flashConfig) = page

/-- No field that has a text is abbreviated in the template. -/
def Unabbreviated (flashConfig : Option FlashConfig) (template : Template pageMarks) : Prop :=
  ∀ placeholder ∈ template.placeholders, ∀ field, Abbreviates placeholder.key field →
    textOf flashConfig (some field) = []

theorem expanded_isReference_iff {flashConfig : Option FlashConfig}
    (template : Template pageMarks) :
    IsReference flashConfig template.text (template.expanded (keyText flashConfig)) ↔
      Unabbreviated flashConfig template := by
  have shorter : ∀ placeholder ∈ template.placeholders,
      (namedText flashConfig placeholder.key).length ≤
        (keyText flashConfig placeholder.key).length :=
    fun placeholder _ => namedText_length_le flashConfig placeholder.key
  have same : template.expanded (keyText flashConfig) = template.expanded (namedText flashConfig) ↔
      Unabbreviated flashConfig template := by
    rw [Template.expanded_eq_iff shorter]
    exact forall₂_congr fun placeholder _ => keyText_eq_iff
  rw [← same]
  constructor
  · rintro ⟨other, text, reference⟩
    rw [← reference, Template.text_injective text]
  · intro reference
    exact ⟨template, rfl, reference.symm⟩

section page

variable {flashConfig : Option FlashConfig} {bufferOut : Memory} {limit : Nat}

/-- A template whose page fits is put into the array. -/
theorem template_rendered (ends : ∀ config ∈ flashConfig, TextsEnd config)
    {template : Template pageMarks} (terminated : NulFree template.text)
    (size : bufferOut.length = limit)
    (fits : (template.expanded (keyText flashConfig)).length < limit) :
    ∃ memory, expandInto limit flashConfig bufferOut template.text 0 = .ok (.ok memory) ∧
      memory.string = .ok (template.expanded (keyText flashConfig)) := by
  have room : ([] : Bytes).length < limit := Nat.lt_of_le_of_lt (Nat.zero_le _) fits
  have rendered := expandInto_renders ends template.text room bufferOut size List.nil_prefix
  rw [expandFrom_text (by simpa using fits)] at rendered
  obtain ⟨memory, written, -, held⟩ := rendered
  exact ⟨memory, written, held.string
    (Template.nulFree_expanded terminated (nulFree_keyText flashConfig))⟩

/-- And nothing else is put there. -/
theorem expandInto_cases (ends : ∀ config ∈ flashConfig, TextsEnd config)
    {htmlFormTemplate : Bytes} (terminated : NulFree htmlFormTemplate)
    (size : bufferOut.length = limit) (room : 0 < limit) :
    (∃ template : Template pageMarks, template.text = htmlFormTemplate ∧
        (template.expanded (keyText flashConfig)).length < limit ∧
        ∃ memory, expandInto limit flashConfig bufferOut htmlFormTemplate 0 = .ok (.ok memory) ∧
          memory.string = .ok (template.expanded (keyText flashConfig))) ∨
      (∀ template : Template pageMarks, template.text = htmlFormTemplate →
          ¬ (template.expanded (keyText flashConfig)).length < limit) ∧
        ∃ err, expandInto limit flashConfig bufferOut htmlFormTemplate 0 = .ok (.error err) := by
  by_cases fitting : ∃ template : Template pageMarks, template.text = htmlFormTemplate ∧
      (template.expanded (keyText flashConfig)).length < limit
  · obtain ⟨template, rfl, fits⟩ := fitting
    exact .inl ⟨template, rfl, fits, template_rendered ends terminated size fits⟩
  · refine .inr ⟨fun template text fits => fitting ⟨template, text, fits⟩, ?_⟩
    have begun : ([] : Bytes).length < limit := room
    have rendered := expandInto_renders ends htmlFormTemplate begun bufferOut size List.nil_prefix
    cases expanded : expandFrom limit flashConfig htmlFormTemplate [] with
    | error err =>
      rw [expanded] at rendered
      exact ⟨err, rendered⟩
    | ok page =>
      obtain ⟨template, text, rfl, fits⟩ := (expandFrom_eq_ok_iff begun).mp expanded
      exact absurd ⟨template, text, fits⟩ fitting

end page

/-- Expanding a template keeps inside the array and ends, and only a template
that is closed becomes a page. The page is what it should be exactly if no key
of a template that fits abbreviates the name of a field that has a text. -/
theorem page_is_reference_iff {flashConfig : Option FlashConfig}
    (ends : ∀ config ∈ flashConfig, TextsEnd config) {htmlFormTemplate : Bytes}
    (terminated : NulFree htmlFormTemplate) {templateLength : Nat} {bufferOut : Memory}
    (size : bufferOut.length = htmlFormMaxLength templateLength) :
    ∃ result, expandInto (htmlFormMaxLength templateLength) flashConfig bufferOut
        htmlFormTemplate 0 = .ok result ∧
      (∀ memory, result = .ok memory →
        ∃ template : Template pageMarks, template.text = htmlFormTemplate) ∧
      ((∀ memory, result = .ok memory →
          ∃ page, memory.string = .ok page ∧ IsReference flashConfig htmlFormTemplate page) ↔
        ∀ template : Template pageMarks, template.text = htmlFormTemplate →
          (template.expanded (keyText flashConfig)).length < htmlFormMaxLength templateLength →
          Unabbreviated flashConfig template) := by
  have room : 0 < htmlFormMaxLength templateLength := by
    have : 0 < hostnameMaxLen := by decide
    rw [htmlFormMaxLength]
    omega
  rcases expandInto_cases ends terminated size room with
    ⟨template, rfl, fits, memory, written, held⟩ | ⟨none, err, failed⟩
  · refine ⟨.ok memory, written, fun _ _ => ⟨template, rfl⟩, ?_⟩
    constructor
    · intro right other text _
      obtain ⟨page, string, reference⟩ := right memory rfl
      rw [held] at string
      cases string
      rw [Template.text_injective text]
      exact (expanded_isReference_iff template).mp reference
    · intro spelled other same
      cases same
      refine ⟨_, held, ?_⟩
      exact (expanded_isReference_iff template).mpr (spelled template rfl fits)
  · refine ⟨.error err, failed, ?_, ?_⟩
    · intro _ same
      cases same
    · constructor
      · intro _ template text fits
        exact absurd fits (none template text)
      · intro _ memory same
        cases same

/-- The template that is nothing but one placeholder. -/
def single (key : Bytes) (closed : templateClose ∉ key) : Template pageMarks :=
  .cons ⟨[], key, rfl, closed⟩ (.plainText [] rfl)

/-- A configuration with the name of a network and nothing else. -/
def network (ssid : Bytes) : FlashConfig := { FlashConfig.zero with wifiSsid := .ofText _ ssid }

theorem home_ends : ∀ config ∈ some (network (ascii "home")), TextsEnd config := by
  rintro config ⟨⟩
  constructor <;> decide +kernel

theorem full_name_is_reference :
    ∃ result, expandInto (htmlFormMaxLength 15) (some (network (ascii "home")))
        (.receive (htmlFormMaxLength 15) []) (ascii "\x7bTEMPLATE:Ssid\x7d") 0 = .ok result ∧
      ∀ memory, result = .ok memory → ∃ page, memory.string = .ok page ∧
        IsReference (some (network (ascii "home"))) (ascii "\x7bTEMPLATE:Ssid\x7d") page := by
  have terminated : NulFree (ascii "\x7bTEMPLATE:Ssid\x7d") := by decide
  obtain ⟨result, written, -, reference⟩ := page_is_reference_iff home_ends terminated
    (Memory.receive_length (htmlFormMaxLength 15) [])
  refine ⟨result, written, reference.mpr fun template text _ => ?_⟩
  have only : template = single (ascii "Ssid") (by decide) := Template.text_injective text
  rw [only]
  intro placeholder member field abbreviates
  cases List.mem_singleton.mp member
  exact absurd abbreviates.1 (by decide +kernel)

/-- The first letter alone stands for the name of the network. -/
theorem initial_becomes_ssid :
    ∃ memory, expandInto (htmlFormMaxLength 12) (some (network (ascii "home")))
        (.receive (htmlFormMaxLength 12) []) (ascii "\x7bTEMPLATE:S\x7d") 0 = .ok (.ok memory) ∧
      memory.string = .ok (ascii "home") ∧
      ¬ IsReference (some (network (ascii "home"))) (ascii "\x7bTEMPLATE:S\x7d")
        (ascii "home") := by
  have terminated : NulFree (single (ascii "S") (by decide)).text := by decide +kernel
  obtain ⟨memory, written, held⟩ := template_rendered home_ends terminated
    (Memory.receive_length (htmlFormMaxLength 12) []) (by decide +kernel)
  refine ⟨memory, written, held, fun reference => ?_⟩
  have spelled := (expanded_isReference_iff (single (ascii "S") (by decide))).mp reference
  have := spelled _ List.mem_cons_self .ssid (by constructor <;> decide +kernel)
  exact absurd this (by decide +kernel)

/-! ## The size of the page -/

/-- A text is no longer than the capacity of its field. -/
theorem textOf_length_le {flashConfig : Option FlashConfig}
    (ends : ∀ config ∈ flashConfig, TextsEnd config) (field : Field) :
    (textOf flashConfig (some field)).length ≤ field.capacity := by
  cases flashConfig with
  | none => exact Nat.zero_le _
  | some config =>
    obtain ⟨ssid, password, ntpServer⟩ := ends config rfl
    cases field with
    | ssid => exact Nat.le_of_lt_succ (config.wifiSsid.text_length_lt ssid)
    | password => exact Nat.le_of_lt_succ (config.wifiPassword.text_length_lt password)
    | ntpServer => exact Nat.le_of_lt_succ (config.ntpServer.text_length_lt ntpServer)

/-- How many placeholders resolve to a field. -/
def uses (placeholders : List (Placeholder pageMarks)) (field : Field) : Nat :=
  placeholders.countP fun placeholder => fieldOf placeholder.key = some field

theorem uses_cons (placeholder : Placeholder pageMarks)
    (placeholders : List (Placeholder pageMarks)) (field : Field) :
    uses (placeholder :: placeholders) field =
      uses placeholders field + if fieldOf placeholder.key = some field then 1 else 0 := by
  simp only [uses, List.countP_cons, decide_eq_true_eq]

/-- The texts take the capacity of a field for each placeholder that resolves to it. -/
theorem texts_length_le {flashConfig : Option FlashConfig}
    (ends : ∀ config ∈ flashConfig, TextsEnd config)
    (placeholders : List (Placeholder pageMarks)) :
    (placeholders.map fun placeholder => (keyText flashConfig placeholder.key).length).sum ≤
      uses placeholders .ssid * wifiSsidMaxLen + uses placeholders .password * wifiPasswordMaxLen +
        uses placeholders .ntpServer * hostnameMaxLen := by
  induction placeholders with
  | nil => exact Nat.le_refl _
  | cons placeholder placeholders ih =>
    rw [List.map_cons, List.sum_cons, uses_cons, uses_cons, uses_cons, keyText]
    cases resolved : fieldOf placeholder.key with
    | none =>
      have blank : textOf flashConfig none = [] := by
        cases flashConfig <;> rfl
      rw [blank]
      simpa using ih
    | some field =>
      have short := textOf_length_le ends field
      -- the count of the field itself goes up, the two others stay
      cases field <;>
        simp only [Option.some.injEq, reduceCtorEq, if_true, if_false, Nat.add_mul, Nat.one_mul,
          Nat.add_zero, Field.capacity] at short ⊢ <;>
        omega

/-- A page with each text in it at most once fits: the texts take no more than
their capacities, and the first placeholder alone leaves room for the terminator. -/
theorem expanded_fits {flashConfig : Option FlashConfig}
    (ends : ∀ config ∈ flashConfig, TextsEnd config) {template : Template pageMarks}
    (once : ∀ field, uses template.placeholders field ≤ 1) :
    (template.expanded (keyText flashConfig)).length < htmlFormMaxLength template.text.length := by
  have lengths := template.expanded_length (keyText flashConfig)
  have texts := texts_length_le ends template.placeholders
  have ssid := Nat.mul_le_mul_right wifiSsidMaxLen (once .ssid)
  have password := Nat.mul_le_mul_right wifiPasswordMaxLen (once .password)
  have ntpServer := Nat.mul_le_mul_right hostnameMaxLen (once .ntpServer)
  rw [htmlFormMaxLength]
  cases template with
  | plainText tail plain =>
    have : 0 < hostnameMaxLen := by decide
    simp only [Template.expanded_plainText, Template.text_plainText]
    omega
  | cons placeholder rest =>
    simp only [Template.placeholders_cons] at ssid password ntpServer
    simp only [Template.placeholders_cons, List.map_cons, List.sum_cons] at lengths texts
    omega

/-- The page of a template with each text in it at most once is always made, so
that the access point starts if the hardware and the server do. -/
theorem page_always_fits {flashConfig : Option FlashConfig}
    (ends : ∀ config ∈ flashConfig, TextsEnd config) {template : Template pageMarks}
    (terminated : NulFree template.text) (once : ∀ field, uses template.placeholders field ≤ 1)
    {htmlFormExpanded : Memory}
    (size : htmlFormExpanded.length = htmlFormMaxLength template.text.length) :
    ∃ page, expandInto (htmlFormMaxLength template.text.length) flashConfig htmlFormExpanded
        template.text 0 = .ok (.ok page) ∧
      page.string = .ok (template.expanded (keyText flashConfig)) ∧
      ∀ wifiInitialized archInit opened,
        startWifiAccessPoint template.text htmlFormExpanded flashConfig wifiInitialized archInit
            opened =
          .ok (if ¬ wifiInitialized ∧ archInit ≠ 0 ∨ ¬ opened then .error .initError
            else .ok page) := by
  obtain ⟨page, written, held⟩ := template_rendered ends terminated size (expanded_fits ends once)
  refine ⟨page, written, held, fun wifiInitialized archInit opened => ?_⟩
  rw [startWifiAccessPoint, written]
  by_cases failed : ¬ wifiInitialized ∧ archInit ≠ 0
  · rw [if_pos failed, if_pos (.inl failed)]
  · rw [if_neg failed, ok_bind]
    cases opened with
    | false => rw [if_pos (.inr Bool.false_ne_true)]; rfl
    | true => rw [if_neg (by simpa using failed)]; rfl

theorem home_page_fits :
    ∃ page, expandInto (htmlFormMaxLength 15) (some (network (ascii "home")))
        (.receive (htmlFormMaxLength 15) []) (ascii "\x7bTEMPLATE:SSID\x7d") 0 = .ok (.ok page) ∧
      page.string = .ok (ascii "home") := by
  have once : ∀ field, uses (single (ascii "SSID") (by decide)).placeholders field ≤ 1 := by
    intro field
    exact List.countP_le_length
  have terminated : NulFree (single (ascii "SSID") (by decide)).text := by decide +kernel
  obtain ⟨page, written, held, -⟩ := page_always_fits home_ends terminated once
    (Memory.receive_length (htmlFormMaxLength 15) [])
  exact ⟨page, written, held⟩

end PicowDayClock.TemplateExpansion
