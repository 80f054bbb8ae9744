import PicowDayClock.Firmware.DhcpServer

/-! What `opt_find` finds, and what follows for a whole message: the walk over
the options ends, stays inside them and stops at the first field with the tag,
so that each fixed offset into a field that was found is inside it too. -/
namespace PicowDayClock.DhcpOptions
open BigEndian (Ip4Addr)
open Checked Dhcp

/-! ## The walk -/

/-- A field with this tag starts at `i` and ends inside the area. -/
def FieldAt (area : Bytes) (i : Nat) (tag len : Byte) : Prop :=
  area[i]? = some tag ∧ tag ≠ dhcpOptEnd ∧ tag ≠ dhcpOptPad ∧ area[i + 1]? = some len ∧
    i + 2 + len.toNat ≤ area.length

/-- One step of the walk: over a pad, or over a whole field. Nothing follows the
end mark, a tag without a length or a field that runs past the end. -/
inductive Step (area : Bytes) : Nat → Nat → Prop
  | pad (there : area[i]? = some dhcpOptPad) : Step area i (i + 1)
  | field (there : FieldAt area i tag len) : Step area i (i + 2 + len.toNat)

/-- Places that the walk comes to from `i`. -/
abbrev Walk (area : Bytes) : Nat → Nat → Prop := Relation.ReflTransGen (Step area)

/-- The first field with this tag on the walk from `i`. -/
def FirstFrom (area : Bytes) (cmd : Byte) (i found : Nat) : Prop :=
  Walk area i found ∧ (∃ len, FieldAt area found cmd len) ∧
    ∀ earlier < found, Walk area i earlier → ∀ len, ¬ FieldAt area earlier cmd len

variable {area : Bytes} {cmd tag len : Byte} {i found : Nat}

theorem FieldAt.tag_eq (there : FieldAt area i tag len) (here : area[i]? = some other) :
    tag = other := by
  have tagged := there.1
  rw [here] at tagged
  exact (Option.some.inj tagged).symm

theorem FieldAt.len_eq (there : FieldAt area i tag len) (behind : area[i + 1]? = some other) :
    len = other := by
  have counted := there.2.2.2.1
  rw [behind] at counted
  exact (Option.some.inj counted).symm

theorem Step.forward (step : Step area i next) : i < next := by
  cases step with
  | pad there => exact Nat.lt_succ_self i
  | field there => omega

theorem walk_forward (walk : Walk area i found) : i ≤ found := by
  induction walk with
  | refl => exact Nat.le_refl i
  | tail _ step ih => exact Nat.le_trans ih (Nat.le_of_lt step.forward)

/-- A field is where the walk goes on, by its length only. -/
theorem step_field_iff (there : FieldAt area i tag len) (next : Nat) :
    Step area i next ↔ next = i + 2 + len.toNat := by
  constructor
  · intro step
    cases step with
    | pad pad => exact absurd (there.tag_eq pad) there.2.2.1
    | field other => rw [other.len_eq there.2.2.2.1]
  · rintro rfl
    exact .field there

theorem step_pad_iff (there : area[i]? = some dhcpOptPad) (next : Nat) :
    Step area i next ↔ next = i + 1 := by
  constructor
  · intro step
    cases step with
    | pad _ => rfl
    | field other => exact absurd (other.tag_eq there) other.2.2.1
  · rintro rfl
    exact .pad there

/-- From a place that holds no such field, the search goes on at the next one. -/
theorem firstFrom_step (only : ∀ next, Step area i next ↔ next = goal)
    (other : ∀ len, ¬ FieldAt area i cmd len) :
    FirstFrom area cmd i found ↔ FirstFrom area cmd goal found := by
  have walks : ∀ place, Walk area i place ↔ i = place ∨ Walk area goal place := by
    intro place
    rw [Walk, Relation.ReflTransGen.cases_head_iff]
    simp only [only, exists_eq_left]
  constructor
  · rintro ⟨walk, ⟨len, there⟩, first⟩
    rcases (walks found).mp walk with rfl | later
    · exact absurd there (other len)
    · refine ⟨later, ⟨len, there⟩, fun earlier before reached => ?_⟩
      exact first earlier before ((walks earlier).mpr (.inr reached))
  · rintro ⟨walk, there, first⟩
    refine ⟨(walks found).mpr (.inr walk), there, fun earlier before reached => ?_⟩
    rcases (walks earlier).mp reached with rfl | later
    · exact other
    · exact first earlier before later

/-- Where the walk stops without a field, there is none to find. -/
theorem not_firstFrom (notPad : area[i]? ≠ some dhcpOptPad)
    (notField : ∀ tag len, ¬ FieldAt area i tag len) (found : Nat) :
    ¬ FirstFrom area cmd i found := by
  rintro ⟨walk, ⟨len, there⟩, -⟩
  rcases Relation.ReflTransGen.cases_head_iff.mp walk with rfl | ⟨next, step, -⟩
  · exact notField cmd len there
  · cases step with
    | pad there => exact notPad there
    | field there => exact notField _ _ there

/-- Where such a field stands, it is the first one. -/
theorem firstFrom_here (there : FieldAt area i cmd len) :
    FirstFrom area cmd i found ↔ found = i := by
  constructor
  · rintro ⟨walk, -, first⟩
    by_contra other
    have before : i < found := by
      have := walk_forward walk
      omega
    exact first i before .refl len there
  · rintro rfl
    refine ⟨.refl, ⟨len, there⟩, fun earlier before walk => ?_⟩
    exact absurd (walk_forward walk) (Nat.not_le.mpr before)

/-! ## The search -/

/-- A search ends, with the first field with the tag on the walk from `i` if there
is one. The area starts at `opt`. -/
def Finds (area : Bytes) (opt : Nat) (cmd : Byte) (i : Nat) (search : Checked (Option Nat)) :
    Prop :=
  ∃ found, search = .ok found ∧ ∀ place, found = some place ↔
    ∃ field, FirstFrom area cmd i field ∧ place = opt + field

section finds

variable {opt : Nat} {search : Checked (Option Nat)}

/-- Nothing is found where the walk stops. -/
theorem Finds.nothing (notPad : area[i]? ≠ some dhcpOptPad)
    (notField : ∀ tag len, ¬ FieldAt area i tag len) (ran : search = .ok none) :
    Finds area opt cmd i search := by
  refine ⟨none, ran, fun place => ?_⟩
  constructor
  · intro impossible
    cases impossible
  · rintro ⟨field, first, -⟩
    exact absurd first (not_firstFrom notPad notField field)

theorem Finds.here (there : FieldAt area i cmd len) (ran : search = .ok (some (opt + i))) :
    Finds area opt cmd i search := by
  refine ⟨some (opt + i), ran, fun place => ?_⟩
  simp only [firstFrom_here there, exists_eq_left, Option.some.injEq]
  exact eq_comm

theorem Finds.later (only : ∀ next, Step area i next ↔ next = goal)
    (other : ∀ len, ¬ FieldAt area i cmd len) (later : Finds area opt cmd goal search) :
    Finds area opt cmd i search := by
  obtain ⟨found, ran, finds⟩ := later
  refine ⟨found, ran, fun place => ?_⟩
  simp only [finds, firstFrom_step only other]

end finds

/-- `opt_find` on an area inside the bytes held: a result from every place, the
first such field exactly if there is one. -/
theorem optFindFrom_finds {msg : Memory} {bytes : Bytes} (holds : msg.Holds bytes)
    (opt : Nat) (cmd : Byte) (i : Nat) :
    Finds (bytes.drop opt) opt cmd i (optFindFrom msg opt (bytes.drop opt).length cmd i) := by
  have loads : ∀ {place : Nat} {byte : Byte}, (bytes.drop opt)[place]? = some byte →
      msg.load (opt + place) = .ok byte := by
    intro place byte there
    rw [List.getElem?_drop] at there
    exact Memory.load_ok holds there
  generalize bytes.drop opt = area at *
  induction distance : area.length - i using Nat.strong_induction_on generalizing i with
  | _ distance ih =>
    rw [optFindFrom]
    by_cases more : i < area.length
    · have here : area[i]? = some area[i] := List.getElem?_eq_getElem more
      rw [dif_pos more, loads here, ok_bind]
      generalize area[i] = tag at here
      by_cases ends : tag = dhcpOptEnd
      · refine .nothing ?_ (fun other len there => ?_) (if_pos ends)
        · rw [here, ends]
          decide
        · exact there.2.1 ((there.tag_eq here).trans ends)
      · rw [if_neg ends]
        by_cases pad : tag = dhcpOptPad
        · rw [pad] at here
          rw [if_pos pad]
          refine .later (step_pad_iff here) (fun len there => ?_) (ih _ (by omega) (i + 1) rfl)
          exact there.2.2.1 (there.tag_eq here)
        · rw [if_neg pad]
          have notPad : area[i]? ≠ some dhcpOptPad := by
            rw [here]
            exact fun tagged => pad (Option.some.inj tagged)
          by_cases alone : i + 1 ≥ area.length
          · refine .nothing notPad (fun other len there => ?_) (if_pos alone)
            have inside := there.2.2.2.2
            omega
          · have behind : area[i + 1]? = some area[i + 1] := List.getElem?_eq_getElem (by omega)
            rw [if_neg alone, Nat.add_assoc, loads behind, ok_bind]
            generalize area[i + 1] = len at behind
            by_cases beyond : i + 2 + len.toNat > area.length
            · refine .nothing notPad (fun other otherLen there => ?_) (if_pos beyond)
              have inside := there.2.2.2.2
              rw [there.len_eq behind] at inside
              omega
            · have there : FieldAt area i tag len :=
                ⟨here, ends, pad, behind, Nat.not_lt.mp beyond⟩
              dsimp only
              rw [if_neg beyond]
              by_cases wanted : tag = cmd
              · subst wanted
                exact .here there (if_pos rfl)
              · rw [if_neg wanted]
                refine .later (step_field_iff there) (fun len there => ?_)
                  (ih _ (by omega) (i + 2 + len.toNat) rfl)
                exact wanted (there.tag_eq here).symm
    · have gone : area[i]? = none := List.getElem?_eq_none (Nat.not_lt.mp more)
      refine .nothing ?_ (fun other len there => ?_) (dif_neg more)
      · rw [gone]
        intro pad
        cases pad
      · have tagged := there.1
        rw [gone] at tagged
        cases tagged

/-! ## Options -/

/-- The first option with this tag in an area holds these data. -/
def OptionIs (area : Bytes) (cmd : Byte) (data : Bytes) : Prop :=
  ∃ field len, FirstFrom area cmd 0 field ∧ FieldAt area field cmd len ∧
    data = (area.drop (field + 2)).take len.toNat

/-- The length byte of a field that was found can be read, and so can all that
it counts. -/
theorem field_inside {msg : Memory} {bytes : Bytes} (holds : msg.Holds bytes) {opt field : Nat}
    (there : FieldAt (bytes.drop opt) field tag len) :
    msg.load (opt + field + 1) = .ok len ∧ opt + field + 2 + len.toNat ≤ bytes.length := by
  have counted := there.2.2.2.1
  have fits := there.2.2.2.2
  rw [List.getElem?_drop] at counted
  rw [List.length_drop] at fits
  exact ⟨Memory.load_ok holds counted, by omega⟩

/-- What `opt_find` finds is the first option with the tag, whose length and data
can be read. -/
theorem optFind_reads {msg : Memory} {bytes : Bytes} (holds : msg.Holds bytes) (opt : Nat)
    (cmd : Byte) :
    (optFind msg opt (bytes.drop opt).length cmd = .ok none ∧
      ∀ data, ¬ OptionIs (bytes.drop opt) cmd data) ∨
    ∃ o len data, optFind msg opt (bytes.drop opt).length cmd = .ok (some o) ∧
      (∀ other, OptionIs (bytes.drop opt) cmd other ↔ other = data) ∧
      msg.load (o + 1) = .ok len ∧ data.length = len.toNat ∧
      (∀ i byte, data[i]? = some byte → msg.load (o + 2 + i) = .ok byte) ∧
      ∀ count ≤ data.length, msg.read (o + 2) count = .ok (data.take count) := by
  obtain ⟨found, ran, finds⟩ := optFindFrom_finds holds opt cmd 0
  rw [optFind, ran]
  cases found with
  | none =>
    refine .inl ⟨rfl, ?_⟩
    rintro data ⟨field, len, first, -⟩
    have impossible := (finds (opt + field)).mpr ⟨field, first, rfl⟩
    cases impossible
  | some o =>
    obtain ⟨field, first, rfl⟩ := (finds o).mp rfl
    obtain ⟨len, there⟩ := first.2.1
    obtain ⟨counted, fits⟩ := field_inside holds there
    have place : (bytes.drop opt).drop (field + 2) = bytes.drop (opt + field + 2) := by
      rw [List.drop_drop, Nat.add_assoc]
    have length : ((bytes.drop (opt + field + 2)).take len.toNat).length = len.toNat := by
      rw [List.length_take, List.length_drop]
      omega
    refine .inr ⟨opt + field, len, (bytes.drop (opt + field + 2)).take len.toNat, rfl, ?_, counted,
      length, ?_, ?_⟩
    · intro other
      rw [← place]
      constructor
      · rintro ⟨field', len', first', there', rfl⟩
        have same := (finds (opt + field')).mpr ⟨field', first', rfl⟩
        have fields := Nat.add_left_cancel (Option.some.inj same)
        subst fields
        rw [there'.len_eq there.2.2.2.1]
      · rintro rfl
        exact ⟨field, len, first, there, rfl⟩
    · intro i byte inside
      have short := (List.getElem?_eq_some_iff.mp inside).1
      rw [length] at short
      rw [List.getElem?_take_of_lt short, List.getElem?_drop] at inside
      exact Memory.load_ok holds inside
    · intro count short
      rw [length] at short
      rw [Memory.read_ok holds (by omega), List.take_take, Nat.min_eq_left short]

/-! ## The reply -/

/-- The message holds these bytes, and the next option goes right behind them. -/
def Written (msg : Memory) (opt : Nat) (bytes : Bytes) : Prop :=
  msg.length = dhcpMsgSize ∧ msg.Holds bytes ∧ opt = bytes.length

theorem Written.write {msg : Memory} {opt : Nat} {bytes : Bytes} (written : Written msg opt bytes)
    (data : Bytes) (fits : opt + data.length ≤ dhcpMsgSize) :
    ∃ next, msg.write opt data = .ok next ∧ Written next (opt + data.length) (bytes ++ data) := by
  obtain ⟨size, holds, rfl⟩ := written
  rw [← size] at fits
  obtain ⟨next, stored, same, held⟩ := holds.write fits
  exact ⟨next, stored, same.trans size, held, List.length_append.symm⟩

/-- An option as bytes. -/
def optionBytes (cmd : Byte) (data : Bytes) : Bytes := cmd :: UInt8.ofNat data.length :: data

theorem optWriteN_writes {msg : Memory} {opt : Nat} {bytes : Bytes}
    (written : Written msg opt bytes) (cmd : Byte) (data : Bytes)
    (fits : opt + 2 + data.length ≤ dhcpMsgSize) :
    ∃ next, optWriteN msg opt cmd data = .ok (next, opt + 2 + data.length) ∧
      Written next (opt + 2 + data.length) (bytes ++ optionBytes cmd data) := by
  have length : opt + (optionBytes cmd data).length = opt + 2 + data.length := by
    simp only [optionBytes, List.length_cons]
    omega
  obtain ⟨next, stored, after⟩ := written.write (optionBytes cmd data) (by omega)
  rw [length] at after
  rw [optionBytes] at stored
  exact ⟨next, by rw [optWriteN, stored, ok_bind], after⟩

/-- All options of a reply. -/
def replyOptions (d : DhcpServer) (msgType : Byte) : Bytes :=
  optionBytes dhcpOptMsgType [msgType] ++ optionBytes dhcpOptServerId d.ip.bytes ++
    optionBytes dhcpOptSubnetMask d.nm.bytes ++ optionBytes dhcpOptRouter d.ip.bytes ++
    optionBytes dhcpOptDns d.ip.bytes ++
    optionBytes dhcpOptIpLeaseTime (BigEndian.write 4 defaultLeaseTimeS) ++ [dhcpOptEnd]

theorem replyOptions_length (d : DhcpServer) (msgType : Byte) :
    (replyOptions d msgType).length = 34 := by
  simp only [replyOptions, optionBytes, List.length_append, List.length_cons, List.length_nil,
    d.ip.four, d.nm.four]
  rfl

/-- The bytes of a reply to a message that is held. -/
def replyBytes (d : DhcpServer) (bytes : Bytes) (yi : Nat) (msgType : Byte) : Bytes :=
  (patch bytes (yiaddrOffset + 3) [UInt8.ofNat (dhcpsBaseIp + yi)]).take (optionsOffset + 4) ++
    replyOptions d msgType

/-- The byte of the address that differs lies in front of the options. -/
theorem host_inside {bytes : Bytes} (long : optionsOffset + 4 ≤ bytes.length) (host : Byte) :
    yiaddrOffset + 3 + [host].length ≤ bytes.length :=
  Nat.le_trans (show 16 + 3 + 1 ≤ optionsOffset + 4 by decide) long

theorem front_length {bytes : Bytes} (long : optionsOffset + 4 ≤ bytes.length) (host : Byte) :
    ((patch bytes (yiaddrOffset + 3) [host]).take (optionsOffset + 4)).length =
      optionsOffset + 4 := by
  apply List.length_take_of_le
  rw [patch_length (host_inside long host)]
  exact long

theorem replyBytes_length (d : DhcpServer) {bytes : Bytes}
    (long : optionsOffset + 4 ≤ bytes.length) (yi : Nat) (msgType : Byte) :
    (replyBytes d bytes yi msgType).length = optionsOffset + 4 + 34 := by
  rw [replyBytes, List.length_append, front_length long, replyOptions_length]

theorem sendReply_sends (d : DhcpServer) {msg : Memory} {bytes : Bytes}
    (size : msg.length = dhcpMsgSize) (holds : msg.Holds bytes)
    (long : optionsOffset + 4 ≤ bytes.length) (yi : Nat) (msgType : Byte) :
    sendReply msg d (optionsOffset + 4) yi msgType = .ok (replyBytes d bytes yi msgType) := by
  have place : optionsOffset + 4 = 240 := rfl
  have room : dhcpMsgSize = 548 := rfl
  have ip := d.ip.four
  have nm := d.nm.four
  obtain ⟨msg₀, addressed, size₀, holds₀⟩ :=
    holds.overwrite (host_inside long (UInt8.ofNat (dhcpsBaseIp + yi)))
  have start : Written msg₀ (optionsOffset + 4) _ :=
    ⟨size₀.trans size, holds₀.take (optionsOffset + 4), (front_length long _).symm⟩
  -- one option behind the other, 33 bytes in all
  obtain ⟨msg₁, typed, start⟩ := optWriteN_writes start dhcpOptMsgType [msgType]
    (by rw [List.length_singleton]; omega)
  rw [List.length_singleton] at typed start
  obtain ⟨msg₂, served, start⟩ := optWriteN_writes start dhcpOptServerId d.ip.bytes (by omega)
  obtain ⟨msg₃, masked, start⟩ := optWriteN_writes start dhcpOptSubnetMask d.nm.bytes (by omega)
  obtain ⟨msg₄, routed, start⟩ := optWriteN_writes start dhcpOptRouter d.ip.bytes (by omega)
  obtain ⟨msg₅, named, start⟩ := optWriteN_writes start dhcpOptDns d.ip.bytes (by omega)
  have time : (BigEndian.write 4 defaultLeaseTimeS).length = 4 := rfl
  obtain ⟨msg₆, timed, start⟩ := optWriteN_writes start dhcpOptIpLeaseTime
    (BigEndian.write 4 defaultLeaseTimeS) (by omega)
  obtain ⟨msg₇, ended, -, held, -⟩ := start.write [dhcpOptEnd]
    (by rw [List.length_singleton]; omega)
  have whole : msg₇.Holds (replyBytes d bytes yi msgType) := by
    simp only [List.append_assoc] at held
    simp only [replyBytes, replyOptions, List.append_assoc]
    exact held
  have length := replyBytes_length d long yi msgType
  rw [sendReply, addressed, ok_bind, optWriteU8, typed]
  simp only [ok_bind, served, masked, routed, named, optWriteU32, timed, ended]
  rw [Memory.read_ok whole (by omega), List.drop_zero, List.take_of_length_le (by omega)]

/-! ## The leases -/

/-- A lease that was left alone, or found expired and freed. -/
def Cleared (ticks : Nat) (before after : DhcpServerLease) : Prop :=
  after = before ∨ expired before.expiry ticks = true ∧ after = { before with mac := noMac }

theorem Cleared.trans {ticks : Nat} {before between after : DhcpServerLease}
    (first : Cleared ticks before between) (second : Cleared ticks between after) :
    Cleared ticks before after := by
  rcases first with rfl | ⟨old, rfl⟩
  · exact second
  · rcases second with rfl | ⟨-, rfl⟩
    · exact .inr ⟨old, rfl⟩
    · exact .inr ⟨old, rfl⟩

/-- The server has the same addresses, and no lease has changed but by expiring. -/
structure OnlyCleared (ticks : Nat) (before after : DhcpServer) : Prop where
  ip : after.ip = before.ip
  lease : ∀ slot, Cleared ticks (before.lease slot) (after.lease slot)

theorem OnlyCleared.refl (ticks : Nat) (d : DhcpServer) : OnlyCleared ticks d d :=
  ⟨rfl, fun _ => .inl rfl⟩

theorem OnlyCleared.trans {ticks : Nat} {before between after : DhcpServer}
    (first : OnlyCleared ticks before between) (second : OnlyCleared ticks between after) :
    OnlyCleared ticks before after :=
  ⟨second.ip.trans first.ip, fun slot => (first.lease slot).trans (second.lease slot)⟩

/-- The loop over the leases keeps its index in range and clears only what has
expired. -/
theorem discoverFrom_clears (chaddr : Bytes) (ticks : Nat) (d : DhcpServer) {yi : Nat}
    (low : yi ≤ dhcpsMaxIp) (i : Nat) :
    ∃ next found, discoverFrom chaddr ticks d yi i = .ok (next, found) ∧ found ≤ dhcpsMaxIp ∧
      OnlyCleared ticks d next := by
  induction distance : dhcpsMaxIp - i using Nat.strong_induction_on generalizing d yi i with
  | _ rest ih =>
    rw [discoverFrom]
    by_cases more : i < dhcpsMaxIp
    · have shorter : dhcpsMaxIp - (i + 1) < rest := by omega
      have lower : (if (d.lease ⟨i, more⟩).mac = noMac then i else yi) ≤ dhcpsMaxIp := by
        split
        · exact Nat.le_of_lt more
        · exact low
      rw [dif_pos more, d.leaseAt_ok more, ok_bind]
      by_cases known : (d.lease ⟨i, more⟩).mac = chaddr
      · rw [if_pos known]
        exact ⟨d, i, rfl, Nat.le_of_lt more, .refl ticks d⟩
      · rw [if_neg known]
        by_cases searching : yi = dhcpsMaxIp
        · rw [if_pos searching]
          by_cases old : expired (d.lease ⟨i, more⟩).expiry ticks = true
          · dsimp only
            rw [if_pos old, d.setLease_ok more, ok_bind]
            have freed : OnlyCleared ticks d
                (d.withLease i { d.lease ⟨i, more⟩ with mac := noMac }) := by
              refine ⟨rfl, fun slot => ?_⟩
              by_cases here : slot.val = i
              · subst here
                exact .inr ⟨old, d.withLease_same rfl _⟩
              · exact .inl (d.withLease_other here _)
            obtain ⟨next, found, ran, inside, cleared⟩ :=
              ih _ shorter (d.withLease i { d.lease ⟨i, more⟩ with mac := noMac })
                (Nat.le_of_lt more) (i + 1) rfl
            exact ⟨next, found, ran, inside, freed.trans cleared⟩
          · dsimp only
            rw [if_neg old]
            exact ih _ shorter d lower (i + 1) rfl
        · rw [if_neg searching]
          exact ih _ shorter d low (i + 1) rfl
    · exact ⟨d, yi, dif_neg more, low, .refl ticks d⟩

/-- A lease is given to the client that has it, or that it is free for, and to
no other. -/
theorem requestLease_cases (chaddr : Bytes) (ticks : Nat) (d : DhcpServer) {yi : Nat}
    (inside : yi < dhcpsMaxIp) :
    ((d.lease ⟨yi, inside⟩).mac ≠ chaddr ∧ (d.lease ⟨yi, inside⟩).mac ≠ noMac ∧
        requestLease chaddr ticks d yi = .ok none) ∨
      ((d.lease ⟨yi, inside⟩).mac = chaddr ∨ (d.lease ⟨yi, inside⟩).mac = noMac) ∧
        requestLease chaddr ticks d yi =
          .ok (some (d.withLease yi { mac := chaddr, expiry := newExpiry ticks })) := by
  rw [requestLease, d.leaseAt_ok inside, ok_bind]
  by_cases known : (d.lease ⟨yi, inside⟩).mac = chaddr
  · right
    refine ⟨.inl known, ?_⟩
    rw [if_pos known, d.setLease_ok inside, ok_bind, known]
  · rw [if_neg known]
    by_cases free : (d.lease ⟨yi, inside⟩).mac = noMac
    · right
      refine ⟨.inr free, ?_⟩
      rw [if_pos free, d.setLease_ok inside, ok_bind]
    · left
      exact ⟨known, free, if_neg free⟩

/-! ## A message -/

/-- The address that goes with a lease. -/
def addressOf (ip : Ip4Addr) (yi : Nat) : Bytes :=
  ip.bytes.take 3 ++ [UInt8.ofNat (dhcpsBaseIp + yi)]

/-- The options ask for the address of this lease. -/
def Asks (ip : Ip4Addr) (area : Bytes) (yi : Nat) : Prop :=
  yi < dhcpsMaxIp ∧ ∃ rest, OptionIs area dhcpOptRequestedIp (addressOf ip yi ++ rest)

theorem addressOf_length (ip : Ip4Addr) (yi : Nat) : (addressOf ip yi).length = 4 := by
  rw [addressOf, List.length_append, List.length_take, ip.four]
  rfl

/-- What it takes for data to begin with an address of the server's. -/
theorem addressOf_append_iff (ip : Ip4Addr) {yi : Nat} (small : yi < dhcpsMaxIp) {network : Bytes}
    (three : network.length = 3) (host : Byte) (more : Bytes) :
    (∃ rest, addressOf ip yi ++ rest = network ++ host :: more) ↔
      network = ip.bytes.take 3 ∧ host.toNat = dhcpsBaseIp + yi := by
  have length : (ip.bytes.take 3).length = 3 := by
    rw [List.length_take, ip.four]
    rfl
  have byte : (UInt8.ofNat (dhcpsBaseIp + yi)).toNat = dhcpsBaseIp + yi := by
    rw [UInt8.toNat_ofNat', Nat.mod_eq_of_lt]
    exact Nat.lt_trans (Nat.add_lt_add_left small dhcpsBaseIp) (by decide)
  simp only [addressOf, List.append_assoc, List.singleton_append]
  constructor
  · rintro ⟨rest, same⟩
    obtain ⟨networks, behind⟩ := List.append_inj same (length.trans three.symm)
    exact ⟨networks.symm, by rw [← (List.cons.inj behind).1, byte]⟩
  · rintro ⟨rfl, hosts⟩
    rw [← hosts, UInt8.ofNat_toNat]
    exact ⟨more, rfl⟩

/-- The requested address is read inside the message, and the index that comes of
it is that of the lease asked for. -/
theorem requestedIndex_asks {msg : Memory} {bytes : Bytes} (holds : msg.Holds bytes)
    (d : DhcpServer) (opt : Nat) :
    ∃ index, requestedIndex msg d opt (bytes.drop opt).length = .ok index ∧
      ∀ yi, index = some yi ↔ Asks d.ip (bytes.drop opt) yi := by
  have nothing (never : ∀ yi, ¬ Asks d.ip (bytes.drop opt) yi) :
      ∃ index, (Except.ok none : Checked (Option Nat)) = .ok index ∧
        ∀ yi, index = some yi ↔ Asks d.ip (bytes.drop opt) yi :=
    ⟨none, rfl, fun yi => iff_of_false (Option.some_ne_none yi).symm (never yi)⟩
  rw [requestedIndex]
  rcases optFind_reads holds opt dhcpOptRequestedIp with
    ⟨ran, absent⟩ | ⟨o, len, data, ran, only, counted, length, loads, reads⟩
  · rw [ran, ok_bind]
    exact nothing fun yi ⟨_, rest, there⟩ => absent _ there
  · rw [ran, ok_bind]
    dsimp only
    rw [counted, ok_bind]
    simp only [Asks, only] at nothing ⊢
    by_cases short : len < 4
    · rw [if_pos short]
      refine nothing fun yi ⟨_, rest, same⟩ => ?_
      have few := congrArg List.length same
      rw [List.length_append, addressOf_length, length] at few
      have below : len.toNat < 4 := UInt8.lt_iff_toNat_lt.mp short
      omega
    · have long : 4 ≤ len.toNat := UInt8.le_iff_toNat_le.mp (UInt8.not_lt.mp short)
      obtain ⟨network, host, more, three, rfl⟩ : ∃ network host more,
          network.length = 3 ∧ data = network ++ host :: more := by
        refine ⟨data.take 3, data[3], data.drop 4, List.length_take_of_le (by omega), ?_⟩
        rw [← List.drop_eq_getElem_cons (by omega), List.take_append_drop]
      have networkRead := reads 3 (by omega)
      have hostRead : msg.load (o + 5) = .ok host := by
        apply loads 3 host
        rw [List.getElem?_append_right (Nat.le_of_eq three), three]
        rfl
      rw [List.take_left' three] at networkRead
      rw [if_neg short, networkRead, ok_bind, hostRead]
      have asks yi : (yi < dhcpsMaxIp ∧ ∃ rest, addressOf d.ip yi ++ rest = network ++ host :: more) ↔
          yi < dhcpsMaxIp ∧ network = d.ip.bytes.take 3 ∧ host.toNat = dhcpsBaseIp + yi :=
        and_congr_right fun small => addressOf_append_iff d.ip small three host more
      simp only [asks] at nothing ⊢
      by_cases other : network ≠ d.ip.bytes.take 3
      · rw [if_pos other]
        exact nothing fun yi ⟨_, same, _⟩ => other same
      · rw [if_neg other, ok_bind]
        by_cases low : host.toNat < dhcpsBaseIp
        · rw [if_pos low]
          exact nothing fun yi ⟨_, _, place⟩ => by omega
        · rw [if_neg low]
          by_cases high : host.toNat - dhcpsBaseIp ≥ dhcpsMaxIp
          · rw [if_pos high]
            exact nothing fun yi ⟨small, _, place⟩ => by omega
          · refine ⟨some (host.toNat - dhcpsBaseIp), if_neg high, fun yi => ?_⟩
            rw [Option.some.injEq]
            constructor
            · rintro rfl
              exact ⟨Nat.not_le.mp high, not_not.mp other, by omega⟩
            · rintro ⟨small, -, place⟩
              omega

/-- What the switch does for a client: nothing, an offer, or a lease given. -/
inductive Switched (d : DhcpServer) (ticks : Nat) (chaddr : Bytes) :
    DhcpServer → Option (Nat × Byte) → Prop
  | silent (cleared : OnlyCleared ticks d next) : Switched d ticks chaddr next none
  | offered (cleared : OnlyCleared ticks d next) (inside : yi < dhcpsMaxIp) :
      Switched d ticks chaddr next (some (yi, dhcpOffer))
  | given (inside : yi < dhcpsMaxIp)
      (free : (d.lease ⟨yi, inside⟩).mac = chaddr ∨ (d.lease ⟨yi, inside⟩).mac = noMac) :
      Switched d ticks chaddr (d.withLease yi { mac := chaddr, expiry := newExpiry ticks })
        (some (yi, dhcpAck))

section switch

variable {msg : Memory} {bytes : Bytes} (holds : msg.Holds bytes)
  (long : optionsOffset ≤ bytes.length) (d : DhcpServer) (ticks opt : Nat)
include holds long

/-- A `DHCPDISCOVER` is answered with the lease that the loop finds. -/
theorem switchMsgType_discover :
    ∃ next yi, discoverFrom ((bytes.drop chaddrOffset).take macLen) ticks d dhcpsMaxIp 0 =
        .ok (next, yi) ∧ yi ≤ dhcpsMaxIp ∧ OnlyCleared ticks d next ∧
      switchMsgType msg d ticks opt (bytes.drop opt).length dhcpDiscover =
        .ok (next, if yi = dhcpsMaxIp then none else some (yi, dhcpOffer)) := by
  have inside : chaddrOffset + macLen ≤ bytes.length := Nat.le_trans (by decide) long
  obtain ⟨next, yi, ran, low, cleared⟩ := discoverFrom_clears
    ((bytes.drop chaddrOffset).take macLen) ticks d (Nat.le_refl dhcpsMaxIp) 0
  refine ⟨next, yi, ran, low, cleared, ?_⟩
  rw [switchMsgType, if_pos rfl, Memory.read_ok holds inside, ok_bind, ran, ok_bind]
  dsimp only
  split <;> rfl

/-- A `DHCPREQUEST` gives the lease that it asks for, where the client has it or
it is free, and else does nothing. -/
theorem switchMsgType_request :
    (∃ yi, ∃ inside : yi < dhcpsMaxIp, Asks d.ip (bytes.drop opt) yi ∧
      ((d.lease ⟨yi, inside⟩).mac = (bytes.drop chaddrOffset).take macLen ∨
        (d.lease ⟨yi, inside⟩).mac = noMac) ∧
      switchMsgType msg d ticks opt (bytes.drop opt).length dhcpRequest =
        .ok (d.withLease yi
          { mac := (bytes.drop chaddrOffset).take macLen, expiry := newExpiry ticks },
          some (yi, dhcpAck))) ∨
    (∀ yi, ∀ inside : yi < dhcpsMaxIp, Asks d.ip (bytes.drop opt) yi →
      (d.lease ⟨yi, inside⟩).mac ≠ (bytes.drop chaddrOffset).take macLen ∧
        (d.lease ⟨yi, inside⟩).mac ≠ noMac) ∧
      switchMsgType msg d ticks opt (bytes.drop opt).length dhcpRequest = .ok (d, none) := by
  have room : chaddrOffset + macLen ≤ bytes.length := Nat.le_trans (by decide) long
  obtain ⟨index, ran, asked⟩ := requestedIndex_asks holds d opt
  rw [switchMsgType, if_neg (by decide), if_pos rfl, ran, ok_bind]
  cases index with
  | none =>
    refine .inr ⟨fun yi inside asks => ?_, rfl⟩
    have impossible := (asked yi).mpr asks
    cases impossible
  | some yi =>
    have asks := (asked yi).mp rfl
    dsimp only
    rw [Memory.read_ok holds room, ok_bind]
    rcases requestLease_cases ((bytes.drop chaddrOffset).take macLen) ticks d asks.1
      with ⟨taken, real, refused⟩ | ⟨free, granted⟩
    · rw [refused, ok_bind]
      refine .inr ⟨fun other inside otherAsks => ?_, rfl⟩
      have same := (asked other).mpr otherAsks
      cases same
      exact ⟨taken, real⟩
    · rw [granted, ok_bind]
      exact .inl ⟨yi, asks.1, asks, free, rfl⟩

theorem switchMsgType_switches (msgType : Byte) :
    ∃ next given, switchMsgType msg d ticks opt (bytes.drop opt).length msgType =
        .ok (next, given) ∧
      Switched d ticks ((bytes.drop chaddrOffset).take macLen) next given := by
  by_cases discover : msgType = dhcpDiscover
  · obtain ⟨next, yi, -, low, cleared, switched⟩ := switchMsgType_discover holds long d ticks opt
    rw [discover]
    refine ⟨next, _, switched, ?_⟩
    split
    · exact .silent cleared
    · rename_i found
      exact .offered cleared (Nat.lt_of_le_of_ne low found)
  · by_cases request : msgType = dhcpRequest
    · rw [request]
      rcases switchMsgType_request holds long d ticks opt with
        ⟨yi, inside, -, free, switched⟩ | ⟨-, switched⟩
      · exact ⟨_, _, switched, .given inside free⟩
      · exact ⟨d, none, switched, .silent (.refl ticks d)⟩
    · refine ⟨d, none, ?_, .silent (.refl ticks d)⟩
      rw [switchMsgType, if_neg discover, if_neg request]

end switch

/-! ## Replies as they are read -/

/-- The client and the address of a reply that acknowledges one. -/
def acknowledged (reply : Bytes) : Option (Bytes × Bytes) :=
  if (reply.drop (optionsOffset + 4)).take 3 = [dhcpOptMsgType, 1, dhcpAck] then
    some ((reply.drop chaddrOffset).take macLen, (reply.drop yiaddrOffset).take 4)
  else none

/-- What the server does with a message: it sends no acknowledgement and only
clears what has expired, or it gives a lease and acknowledges that. -/
inductive Handled (d : DhcpServer) (ticks : Nat) : DhcpServer → Option Bytes → Prop
  | other (cleared : OnlyCleared ticks d next) (quiet : answer.bind acknowledged = none) :
      Handled d ticks next answer
  | given (inside : yi < dhcpsMaxIp)
      (free : (d.lease ⟨yi, inside⟩).mac = chaddr ∨ (d.lease ⟨yi, inside⟩).mac = noMac)
      (acks : acknowledged reply = some (chaddr, addressOf d.ip yi)) :
      Handled d ticks (d.withLease yi { mac := chaddr, expiry := newExpiry ticks }) (some reply)

theorem slice_front {bytes : Bytes} {front offset count : Nat} (rest : Bytes)
    (inside : offset + count ≤ front) (long : front ≤ bytes.length) :
    ((bytes.take front ++ rest).drop offset).take count = (bytes.drop offset).take count := by
  have length : (bytes.take front).length = front := List.length_take_of_le long
  rw [List.drop_append_of_le_length (by omega), List.take_append_of_le_length
    (by rw [List.length_drop]; omega), List.drop_take, List.take_take, Nat.min_eq_left (by omega)]

theorem replyBytes_type (d : DhcpServer) {bytes : Bytes} (long : optionsOffset + 4 ≤ bytes.length)
    (yi : Nat) (msgType : Byte) :
    ((replyBytes d bytes yi msgType).drop (optionsOffset + 4)).take 3 =
      [dhcpOptMsgType, 1, msgType] := by
  rw [replyBytes, List.drop_left' (front_length long _)]
  rfl

/-- The client's hardware address goes back as it came. -/
theorem replyBytes_client (d : DhcpServer) {bytes : Bytes}
    (long : optionsOffset + 4 ≤ bytes.length) (yi : Nat) (msgType : Byte) :
    ((replyBytes d bytes yi msgType).drop chaddrOffset).take macLen =
      (bytes.drop chaddrOffset).take macLen := by
  have inside := host_inside long (UInt8.ofNat (dhcpsBaseIp + yi))
  rw [replyBytes, slice_front _ (by decide) (by rw [patch_length inside]; exact long),
    patch_drop inside (show 16 + 3 + 1 ≤ chaddrOffset by decide)]

/-- The client's address is the server's with the last byte replaced. -/
theorem replyBytes_address (d : DhcpServer) {bytes : Bytes}
    (long : optionsOffset + 4 ≤ bytes.length)
    (own : (bytes.drop yiaddrOffset).take 4 = d.ip.bytes) (yi : Nat) (msgType : Byte) :
    ((replyBytes d bytes yi msgType).drop yiaddrOffset).take 4 = addressOf d.ip yi := by
  have inside := host_inside long (UInt8.ofNat (dhcpsBaseIp + yi))
  have network : ((patch bytes (yiaddrOffset + 3) [UInt8.ofNat (dhcpsBaseIp + yi)]).drop
      yiaddrOffset).take 3 = d.ip.bytes.take 3 := by
    have kept := patch_take inside (Nat.le_refl (yiaddrOffset + 3))
    rw [← own, List.take_take, List.take_drop, List.take_drop, kept]
    rfl
  have host : ((patch bytes (yiaddrOffset + 3) [UInt8.ofNat (dhcpsBaseIp + yi)]).drop
      (yiaddrOffset + 3)).take 1 = [UInt8.ofNat (dhcpsBaseIp + yi)] := patch_data inside
  rw [replyBytes, slice_front _ (by decide) (by rw [patch_length inside]; exact long),
    show 4 = 3 + 1 by rfl, List.take_add, network, List.drop_drop, host, addressOf]

section message

variable (d : DhcpServer) (ticks : Nat) (p : Bytes)

/-- What the message holds when its options are searched: the server's address
where the client's will be, and the rest as it was received. -/
def messageBytes : Bytes :=
  patch (patch (p.take dhcpMsgSize) 0 [dhcpOffer]) yiaddrOffset d.ip.bytes

/-- The options of a datagram, and its client, as far as it is received. -/
def optionsOf : Bytes := (p.take dhcpMsgSize).drop (optionsOffset + 4)
def clientOf : Bytes := ((p.take dhcpMsgSize).drop chaddrOffset).take macLen

/-- The datagram is a message of this type. -/
def MessageType (msgType : Byte) : Prop :=
  dhcpMinSize ≤ p.length ∧ ∃ rest, OptionIs (optionsOf p) dhcpOptMsgType (msgType :: rest)

variable {p} (long : dhcpMinSize ≤ p.length)
include long

theorem fields_inside : 0 + [dhcpOffer].length ≤ (p.take dhcpMsgSize).length ∧
    yiaddrOffset + d.ip.bytes.length ≤ (patch (p.take dhcpMsgSize) 0 [dhcpOffer]).length := by
  have minimum : dhcpMinSize = 243 := rfl
  have size : dhcpMsgSize = 548 := rfl
  have place : yiaddrOffset = 16 := rfl
  have opcode : 0 + [dhcpOffer].length ≤ (p.take dhcpMsgSize).length := by
    rw [List.length_singleton, List.length_take]
    omega
  refine ⟨opcode, ?_⟩
  rw [patch_length opcode, d.ip.four, List.length_take]
  omega

theorem messageBytes_length : (messageBytes d p).length = min p.length dhcpMsgSize := by
  obtain ⟨opcode, address⟩ := fields_inside d long
  rw [messageBytes, patch_length address, patch_length opcode, List.length_take, Nat.min_comm]

theorem messageBytes_address : ((messageBytes d p).drop yiaddrOffset).take 4 = d.ip.bytes := by
  have data := patch_data (fields_inside d long).2
  rwa [d.ip.four] at data

/-- Behind its two fields the message is the datagram. -/
theorem messageBytes_drop {count : Nat} (behind : yiaddrOffset + 4 ≤ count) :
    (messageBytes d p).drop count = (p.take dhcpMsgSize).drop count := by
  obtain ⟨opcode, address⟩ := fields_inside d long
  have four := d.ip.four
  rw [messageBytes, patch_drop address (by omega), patch_drop opcode]
  rw [List.length_singleton]
  omega

theorem messageBytes_options : (messageBytes d p).drop (optionsOffset + 4) = optionsOf p :=
  messageBytes_drop d long (by decide)

theorem messageBytes_client : ((messageBytes d p).drop chaddrOffset).take macLen = clientOf p := by
  rw [messageBytes_drop d long (by decide), clientOf]

/-- All up to the magic cookie is there. -/
theorem messageBytes_room : optionsOffset + 4 ≤ (messageBytes d p).length := by
  rw [messageBytes_length d long]
  exact Nat.le_min.mpr ⟨Nat.le_trans (by decide) long, by decide⟩

theorem message_holds :
    ∃ first msg, (Memory.receive dhcpMsgSize p).write 0 [dhcpOffer] = .ok first ∧
      first.write yiaddrOffset d.ip.bytes = .ok msg ∧ msg.length = dhcpMsgSize ∧
      msg.Holds (messageBytes d p) := by
  obtain ⟨opcode, address⟩ := fields_inside d long
  obtain ⟨first, marked, size, holds⟩ :=
    (Memory.receive_holds dhcpMsgSize p).overwrite opcode
  obtain ⟨msg, addressed, same, held⟩ := holds.overwrite address
  exact ⟨first, msg, marked, addressed, by rw [same, size, Memory.receive_length], held⟩

end message

/-- A reply as its client reads it: an offer acknowledges nothing, and an
acknowledgement names the client and the address of the lease. -/
theorem reply_offers (next d : DhcpServer) {p : Bytes} (long : dhcpMinSize ≤ p.length) (yi : Nat) :
    acknowledged (replyBytes next (messageBytes d p) yi dhcpOffer) = none := by
  rw [acknowledged, replyBytes_type next (messageBytes_room d long)]
  rfl

theorem reply_acknowledges {next d : DhcpServer} (ip : next.ip = d.ip) {p : Bytes}
    (long : dhcpMinSize ≤ p.length) (yi : Nat) :
    acknowledged (replyBytes next (messageBytes d p) yi dhcpAck) =
      some (clientOf p, addressOf d.ip yi) := by
  have room := messageBytes_room d long
  have own : ((messageBytes d p).drop yiaddrOffset).take 4 = next.ip.bytes := by
    rw [ip]
    exact messageBytes_address d long
  rw [acknowledged, replyBytes_type next room, if_pos rfl, replyBytes_client next room,
    replyBytes_address next room own, messageBytes_client d long, ip]

/-- What `dhcp_server_process` does with a datagram: nothing, if it has no message
type; else the switch on its type, and a reply if an address is given. -/
theorem dhcpServerProcess_reads (d : DhcpServer) (ticks : Nat) (p : Bytes) :
    (dhcpServerProcess d ticks p = .ok (d, none) ∧ ∀ msgType, ¬ MessageType p msgType) ∨
    ∃ msgType msg, (∀ other, MessageType p other ↔ other = msgType) ∧
      msg.Holds (messageBytes d p) ∧ dhcpMinSize ≤ p.length ∧
      dhcpServerProcess d ticks p =
        switchMsgType msg d ticks (optionsOffset + 4) (optionsOf p).length msgType >>=
          fun switched => .ok (switched.1, switched.2.map fun given =>
            replyBytes switched.1 (messageBytes d p) given.1 given.2) := by
  have minimum : dhcpMinSize = 243 := rfl
  have size : dhcpMsgSize = 548 := rfl
  have offset : optionsOffset = 236 := rfl
  rw [dhcpServerProcess]
  by_cases short : p.length < dhcpMinSize
  · rw [if_pos short]
    exact .inl ⟨rfl, fun msgType typed => absurd typed.1 (Nat.not_le.mpr short)⟩
  · have long := Nat.not_lt.mp short
    obtain ⟨first, msg, marked, addressed, full, holds⟩ := message_holds d long
    have length := messageBytes_length d long
    have area := messageBytes_options d long
    have options : min p.length dhcpMsgSize - optionsOffset - 4 = (optionsOf p).length := by
      rw [← area, List.length_drop]
      omega
    have found := optFind_reads holds (optionsOffset + 4) dhcpOptMsgType
    rw [area] at found
    dsimp only
    rw [if_neg short, if_neg (by omega), if_neg (by omega), marked, ok_bind, addressed, ok_bind,
      options]
    rcases found with ⟨ran, absent⟩ | ⟨o, len, data, ran, only, counted, same, loads, -⟩
    · rw [ran, ok_bind]
      exact .inl ⟨rfl, fun msgType ⟨_, rest, there⟩ => absent _ there⟩
    · rw [ran, ok_bind]
      dsimp only
      rw [counted, ok_bind]
      cases data with
      | nil =>
        have empty : len < 1 := UInt8.lt_iff_toNat_lt.mpr (by rw [← same]; decide)
        rw [if_pos empty]
        refine .inl ⟨rfl, fun msgType ⟨_, rest, there⟩ => ?_⟩
        cases (only _).mp there
      | cons msgType data =>
        have some_ : ¬ len < 1 := by
          rw [UInt8.lt_iff_toNat_lt, ← same]
          exact Nat.not_lt.mpr (Nat.succ_pos data.length)
        rw [if_neg some_, loads 0 msgType rfl, ok_bind]
        refine .inr ⟨msgType, msg, fun other => ?_, holds, long, ?_⟩
        · simp only [MessageType, long, only, true_and, List.cons.injEq, exists_and_left,
            exists_eq, and_true]
        · cases switchMsgType msg d ticks (optionsOffset + 4) (optionsOf p).length msgType with
          | error fault => rfl
          | ok switched =>
            obtain ⟨next, _ | ⟨yi, replyType⟩⟩ := switched
            · rfl
            · rw [ok_bind, ok_bind]
              dsimp only
              rw [sendReply_sends next full holds (messageBytes_room d long), ok_bind]
              rfl

/-- Every message is handled without a fault, in one of the two ways, and a reply
does not go beyond the option field. -/
theorem dhcpServerProcess_handles (d : DhcpServer) (ticks : Nat) (p : Bytes) :
    ∃ next answer, dhcpServerProcess d ticks p = .ok (next, answer) ∧
      Handled d ticks next answer ∧ ∀ reply ∈ answer, reply.length ≤ dhcpMsgSize := by
  rcases dhcpServerProcess_reads d ticks p with ⟨ignored, -⟩ | ⟨msgType, msg, -, holds, long, ran⟩
  · exact ⟨d, none, ignored, .other (.refl ticks d) rfl, fun reply member => by cases member⟩
  · have room := messageBytes_room d long
    obtain ⟨next, given, switched, what⟩ := switchMsgType_switches holds
      (Nat.le_of_add_right_le room) d ticks (optionsOffset + 4) msgType
    rw [messageBytes_options d long] at switched
    rw [messageBytes_client d long] at what
    rw [switched, ok_bind] at ran
    refine ⟨next, _, ran, ?_, fun reply member => ?_⟩
    · cases what with
      | silent cleared => exact .other cleared rfl
      | offered cleared inside => exact .other cleared (reply_offers next d long _)
      | given inside free => exact .given inside free (reply_acknowledges rfl long _)
    · obtain ⟨_, -, rfl⟩ := Option.map_eq_some_iff.mp member
      rw [replyBytes_length _ room]
      decide

/-- On the options of any area `opt_find` ends, reads only inside it and finds
the first field with the tag on the walk, if there is one. So every datagram is
handled without a fault: only received bytes are read, no lease but the eight
is touched, and the options fit their field. -/
theorem options_are_exact :
    (∀ (area : Bytes) (cmd : Byte), ∃ found,
      optFind (area.map some) 0 area.length cmd = .ok found ∧
        ∀ field, found = some field ↔ FirstFrom area cmd 0 field) ∧
    ∀ (d : DhcpServer) (ticks : Nat) (p : Bytes), ∃ next answer,
      dhcpServerProcess d ticks p = .ok (next, answer) ∧
        ∀ reply ∈ answer, reply.length ≤ dhcpMsgSize := by
  constructor
  · intro area cmd
    obtain ⟨found, ran, finds⟩ :=
      optFindFrom_finds (List.prefix_refl (area.map some)) 0 cmd 0
    simp only [List.drop_zero, Nat.zero_add, exists_eq_right'] at ran finds
    exact ⟨found, ran, finds⟩
  · intro d ticks p
    obtain ⟨next, answer, ran, -, short⟩ := dhcpServerProcess_handles d ticks p
    exact ⟨next, answer, ran, short⟩

end PicowDayClock.DhcpOptions
