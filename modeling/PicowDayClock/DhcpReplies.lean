import PicowDayClock.DhcpMessages

/-! What a client reads in a reply. Options that are written one behind the other
are found again with their data, each tag with the first option that has it; so
every reply of the server names the server itself as router and name server. -/
namespace PicowDayClock.DhcpReplies
open BigEndian (Ip4Addr)
open Checked Dhcp DhcpOptions DhcpMessages

/-! ## A sequence of options -/

/-- The bytes of options, one behind the other. -/
def fieldsBytes (fields : List (Byte × Bytes)) : Bytes :=
  fields.flatMap fun field => optionBytes field.1 field.2

/-- A tag that is neither pad nor end mark, and data that the length byte counts. -/
def Writable (field : Byte × Bytes) : Prop :=
  field.1 ≠ dhcpOptPad ∧ field.1 ≠ dhcpOptEnd ∧ field.2.length < 256

theorem fieldsBytes_cons (cmd : Byte) (data : Bytes) (fields : List (Byte × Bytes)) :
    fieldsBytes ((cmd, data) :: fields) = optionBytes cmd data ++ fieldsBytes fields :=
  List.flatMap_cons

theorem optionBytes_length (cmd : Byte) (data : Bytes) :
    (optionBytes cmd data).length = 2 + data.length := by
  simp only [optionBytes, List.length_cons]
  omega

/-- The length byte of an option gives the length of its data back. -/
theorem dataLength_toNat {data : Bytes} (short : data.length < 256) :
    (UInt8.ofNat data.length).toNat = data.length := by
  rw [UInt8.toNat_ofNat']
  exact Nat.mod_eq_of_lt short

theorem fieldAt_optionBytes {cmd : Byte} {data : Bytes} (writable : Writable (cmd, data))
    (front behind : Bytes) :
    FieldAt (front ++ (optionBytes cmd data ++ behind)) front.length cmd
      (UInt8.ofNat data.length) := by
  have short : data.length < 256 := writable.2.2
  refine ⟨?_, writable.2.1, writable.1, ?_, ?_⟩
  · rw [List.getElem?_append_right (Nat.le_refl _), Nat.sub_self]
    rfl
  · rw [List.getElem?_append_right (Nat.le_add_right _ 1), Nat.add_sub_cancel_left]
    rfl
  · rw [dataLength_toNat short, List.length_append, List.length_append, optionBytes_length]
    omega

theorem data_optionBytes (cmd : Byte) (data front behind : Bytes) :
    ((front ++ (optionBytes cmd data ++ behind)).drop (front.length + 2)).take data.length =
      data := by
  rw [← List.drop_drop, List.drop_left]
  exact List.take_left

/-- `OptionIs`, with the walk from an index on. -/
def FoundFrom (area : Bytes) (cmd : Byte) (start : Nat) (data : Bytes) : Prop :=
  ∃ field len, FirstFrom area cmd start field ∧ FieldAt area field cmd len ∧
    data = (area.drop (field + 2)).take len.toNat

theorem foundFrom_end {area : Bytes} {start : Nat} (mark : area[start]? = some dhcpOptEnd)
    (cmd : Byte) (data : Bytes) : ¬ FoundFrom area cmd start data := by
  rintro ⟨field, len, first, -⟩
  refine not_firstFrom ?_ (fun tag len there => there.2.1 (there.tag_eq mark)) field first
  rw [mark]
  decide

theorem foundFrom_here {cmd : Byte} {here : Bytes} (writable : Writable (cmd, here))
    (front behind data : Bytes) :
    FoundFrom (front ++ (optionBytes cmd here ++ behind)) cmd front.length data ↔ here = data := by
  have there := fieldAt_optionBytes writable front behind
  have holds := data_optionBytes cmd here front behind
  rw [← dataLength_toNat writable.2.2] at holds
  constructor
  · rintro ⟨field, len, first, at_, rfl⟩
    obtain rfl := (firstFrom_here there).mp first
    rw [at_.len_eq there.2.2.2.1, holds]
  · rintro rfl
    exact ⟨_, _, (firstFrom_here there).mpr rfl, there, holds.symm⟩

/-- The walk goes on behind an option with another tag. -/
theorem foundFrom_other {tag cmd : Byte} {here : Bytes} (writable : Writable (tag, here))
    (other : cmd ≠ tag) (front behind data : Bytes) :
    FoundFrom (front ++ (optionBytes tag here ++ behind)) cmd front.length data ↔
      FoundFrom (front ++ (optionBytes tag here ++ behind)) cmd
        (front ++ optionBytes tag here).length data := by
  have there := fieldAt_optionBytes writable front behind
  have notHere : ∀ len, ¬ FieldAt (front ++ (optionBytes tag here ++ behind)) front.length cmd
      len := fun len at_ => other (at_.tag_eq there.1)
  have next : front.length + 2 + (UInt8.ofNat here.length).toNat =
      (front ++ optionBytes tag here).length := by
    have short : here.length < 256 := writable.2.2
    rw [dataLength_toNat short, List.length_append, optionBytes_length]
    omega
  simp only [FoundFrom, firstFrom_step (step_field_iff there) notHere, next]

/-- From the start of a sequence of options the walk finds the first one with the
tag. -/
theorem fields_found (fields : List (Byte × Bytes)) (writable : ∀ field ∈ fields, Writable field)
    (front behind : Bytes) (cmd : Byte) (data : Bytes) :
    FoundFrom (front ++ (fieldsBytes fields ++ dhcpOptEnd :: behind)) cmd front.length data ↔
      fields.lookup cmd = some data := by
  induction fields generalizing front with
  | nil =>
    have mark : (front ++ (fieldsBytes [] ++ dhcpOptEnd :: behind))[front.length]? =
        some dhcpOptEnd := by
      rw [List.getElem?_append_right (Nat.le_refl _), Nat.sub_self]
      rfl
    constructor
    · intro found
      exact absurd found (foundFrom_end mark cmd data)
    · intro impossible
      cases impossible
  | cons field fields ih =>
    obtain ⟨tag, here⟩ := field
    obtain ⟨head, tail⟩ := List.forall_mem_cons.mp writable
    rw [fieldsBytes_cons, List.append_assoc]
    by_cases same : cmd = tag
    · subst same
      rw [foundFrom_here head, List.lookup_cons_self, Option.some.injEq]
    · rw [foundFrom_other head same, ← List.append_assoc front, ih tail, List.lookup_cons,
        beq_false_of_ne same]

theorem fields_are (fields : List (Byte × Bytes)) (writable : ∀ field ∈ fields, Writable field)
    (behind : Bytes) (cmd : Byte) (data : Bytes) :
    OptionIs (fieldsBytes fields ++ dhcpOptEnd :: behind) cmd data ↔
      fields.lookup cmd = some data :=
  fields_found fields writable [] behind cmd data

/-! ## Written and found -/

/-- Options written one behind the other. -/
def writeFields (msg : Memory) (opt : Nat) : List (Byte × Bytes) → Checked (Memory × Nat)
  | [] => .ok (msg, opt)
  | (cmd, data) :: fields => do
    let (msg, opt) ← optWriteN msg opt cmd data
    writeFields msg opt fields

theorem writeFields_writes {msg : Memory} {opt : Nat} {bytes : Bytes}
    (written : Written msg opt bytes) (fields : List (Byte × Bytes))
    (fits : opt + (fieldsBytes fields).length ≤ dhcpMsgSize) :
    ∃ next, writeFields msg opt fields = .ok (next, opt + (fieldsBytes fields).length) ∧
      Written next (opt + (fieldsBytes fields).length) (bytes ++ fieldsBytes fields) := by
  induction fields generalizing msg opt bytes with
  | nil =>
    refine ⟨msg, rfl, ?_⟩
    rw [fieldsBytes, List.flatMap_nil, List.append_nil]
    exact written
  | cons field fields ih =>
    obtain ⟨cmd, data⟩ := field
    have length : opt + (fieldsBytes ((cmd, data) :: fields)).length =
        opt + 2 + data.length + (fieldsBytes fields).length := by
      rw [fieldsBytes_cons, List.length_append, optionBytes_length]
      omega
    rw [length] at fits ⊢
    obtain ⟨between, first, started⟩ := optWriteN_writes written cmd data (by omega)
    obtain ⟨next, rest, done⟩ := ih started fits
    refine ⟨next, ?_, ?_⟩
    · rw [writeFields, first, ok_bind]
      exact rest
    · rw [fieldsBytes_cons, ← List.append_assoc]
      exact done

/-- The data of an option, found as the server finds the options of a request. -/
def readOption (msg : Memory) (opt optLen : Nat) (cmd : Byte) : Checked (Option Bytes) := do
  match ← optFind msg opt optLen cmd with
  | none => .ok none
  | some o =>
    let fieldLen ← msg.load (o + 1)
    let data ← msg.read (o + 2) fieldLen.toNat
    .ok (some data)

theorem readOption_reads {msg : Memory} {bytes : Bytes} (holds : msg.Holds bytes) (opt : Nat)
    (cmd : Byte) :
    ∃ answer, readOption msg opt (bytes.drop opt).length cmd = .ok answer ∧
      ∀ data, answer = some data ↔ OptionIs (bytes.drop opt) cmd data := by
  rcases optFind_reads holds opt cmd with
    ⟨ran, absent⟩ | ⟨o, len, data, ran, only, counted, length, -, reads⟩
  · refine ⟨none, by rw [readOption, ran, ok_bind], fun data => ?_⟩
    constructor
    · intro impossible
      cases impossible
    · intro there
      exact absurd there (absent data)
  · refine ⟨some data, ?_, fun other => ?_⟩
    · rw [readOption, ran, ok_bind]
      dsimp only
      rw [counted, ok_bind, ← length, reads data.length (Nat.le_refl _), ok_bind, List.take_length]
    · rw [only, Option.some.injEq]
      exact eq_comm

/-- What an area that begins with these options reads as. -/
theorem fields_read {msg : Memory} {bytes : Bytes} (holds : msg.Holds bytes) {opt : Nat}
    {fields : List (Byte × Bytes)} (writable : ∀ field ∈ fields, Writable field)
    (area : bytes.drop opt = fieldsBytes fields ++ [dhcpOptEnd]) (cmd : Byte) :
    readOption msg opt (bytes.drop opt).length cmd = .ok (fields.lookup cmd) := by
  obtain ⟨answer, ran, reads⟩ := readOption_reads holds opt cmd
  have same : answer = fields.lookup cmd := by
    apply Option.ext
    intro data
    rw [reads, area]
    exact fields_are fields writable [] cmd data
  rw [ran, same]

/-- Whatever options are written behind some bytes of a message, with an end mark
behind them: `opt_find` finds each tag at the first option that was written with it,
with the data that were written, and no tag else. -/
theorem options_come_back {msg : Memory} {opt : Nat} {bytes : Bytes}
    (written : Written msg opt bytes) {fields : List (Byte × Bytes)}
    (writable : ∀ field ∈ fields, Writable field)
    (fits : opt + (fieldsBytes fields).length + 1 ≤ dhcpMsgSize) :
    ∃ between next, writeFields msg opt fields =
        .ok (between, opt + (fieldsBytes fields).length) ∧
      between.write (opt + (fieldsBytes fields).length) [dhcpOptEnd] = .ok next ∧
      ∀ cmd, readOption next opt ((fieldsBytes fields).length + 1) cmd =
        .ok (fields.lookup cmd) := by
  obtain ⟨between, wrote, filled⟩ := writeFields_writes written fields (by omega)
  obtain ⟨next, ended, -, holds, -⟩ := filled.write [dhcpOptEnd] fits
  refine ⟨between, next, wrote, ended, fun cmd => ?_⟩
  have area : ((bytes ++ fieldsBytes fields) ++ [dhcpOptEnd]).drop opt =
      fieldsBytes fields ++ [dhcpOptEnd] := by
    rw [List.append_assoc, written.2.2, List.drop_left]
  have length : (((bytes ++ fieldsBytes fields) ++ [dhcpOptEnd]).drop opt).length =
      (fieldsBytes fields).length + 1 := by
    rw [area, List.length_append, List.length_singleton]
  rw [← length]
  exact fields_read holds writable area cmd

/-- Of two options with one tag the first is found. -/
theorem first_option_comes_back :
    ∃ between next, writeFields (Memory.receive dhcpMsgSize []) 0
        [(dhcpOptRouter, [192, 168, 4, 1]), (dhcpOptMsgType, [dhcpAck]), (dhcpOptRouter, [7, 7])] =
        .ok (between, 13) ∧
      between.write 13 [dhcpOptEnd] = .ok next ∧
      readOption next 0 14 dhcpOptRouter = .ok (some [192, 168, 4, 1]) ∧
      readOption next 0 14 dhcpOptDns = .ok none := by
  have written : Written (Memory.receive dhcpMsgSize []) 0 [] :=
    ⟨Memory.receive_length dhcpMsgSize [], Memory.receive_holds dhcpMsgSize [], rfl⟩
  have writable : ∀ field ∈ [(dhcpOptRouter, [192, 168, 4, 1]), (dhcpOptMsgType, [dhcpAck]),
      (dhcpOptRouter, [7, 7])], Writable field := by
    simp only [List.forall_mem_cons, Writable, List.not_mem_nil, false_implies, implies_true,
      and_true]
    decide
  obtain ⟨between, next, wrote, ended, reads⟩ := options_come_back written writable (by decide)
  exact ⟨between, next, wrote, ended, reads dhcpOptRouter, reads dhcpOptDns⟩

/-! ## The header of a reply -/

theorem patch_take_behind {bytes data : Bytes} {offset count : Nat}
    (inside : offset + data.length ≤ count) (long : count ≤ bytes.length) :
    (patch bytes offset data).take count = patch (bytes.take count) offset data := by
  have front : (bytes.take offset ++ data).length = offset + data.length := by
    rw [List.length_append, List.length_take]
    omega
  obtain ⟨more, rfl⟩ := Nat.exists_eq_add_of_le inside
  rw [patch, patch, ← front, List.take_length_add_append, List.take_take, front,
    Nat.min_eq_left (by omega), List.take_drop]

/-- The last byte of the address is written over that of the server's. -/
theorem patch_address {bytes : Bytes} {offset : Nat} (room : offset + 4 ≤ bytes.length)
    (ip : Ip4Addr) (yi : Nat) :
    patch (patch bytes offset ip.bytes) (offset + 3) [UInt8.ofNat (dhcpsBaseIp + yi)] =
      patch bytes offset (addressOf ip yi) := by
  have four := ip.four
  have inside : offset + ip.bytes.length ≤ bytes.length := by rw [four]; exact room
  have front : (bytes.take offset).length = offset := List.length_take_of_le (by omega)
  have network : (patch bytes offset ip.bytes).take (offset + 3) =
      bytes.take offset ++ ip.bytes.take 3 := by
    rw [patch, List.append_assoc, List.take_append, List.take_of_length_le (by omega), front,
      Nat.add_sub_cancel_left, List.take_append_of_le_length (by omega)]
  have rest : (patch bytes offset ip.bytes).drop (offset + 3 + 1) = bytes.drop (offset + 4) :=
    patch_drop inside (by omega)
  rw [patch, network, List.length_singleton, rest, patch, addressOf_length, addressOf]
  simp only [List.append_assoc]

/-- The fixed part of a reply: that of the request as a `BOOTREPLY`, with the
address that is given. -/
def replyHeader (ip : Ip4Addr) (p : Bytes) (yi : Nat) : Bytes :=
  patch (patch (p.take (optionsOffset + 4)) 0 [dhcpOffer]) yiaddrOffset (addressOf ip yi)

theorem replyBytes_header {next d : DhcpServer} {p : Bytes} (long : dhcpMinSize ≤ p.length)
    (yi : Nat) (msgType : Byte) :
    (replyBytes next (messageBytes d p) yi msgType).take (optionsOffset + 4) =
      replyHeader d.ip p yi := by
  have room := messageBytes_room d long
  have minimum : dhcpMinSize = 243 := rfl
  have offset : optionsOffset = 236 := rfl
  have place : yiaddrOffset = 16 := rfl
  have size : dhcpMsgSize = 548 := rfl
  have received : (p.take dhcpMsgSize).length = min dhcpMsgSize p.length := List.length_take
  obtain ⟨opcode, address⟩ := fields_inside d long
  have marked := patch_length opcode
  rw [replyBytes, List.take_left' (front_length room _), messageBytes,
    patch_address (by omega), patch_take_behind (by rw [addressOf_length]; omega) (by omega),
    patch_take_behind (by rw [List.length_singleton]; omega) (by omega), List.take_take,
    Nat.min_eq_left (by omega), replyHeader]

/-! ## The options of a reply -/

/-- What a reply of this type says. -/
def replyFields (d : DhcpServer) (msgType : Byte) : List (Byte × Bytes) :=
  [(dhcpOptMsgType, [msgType]), (dhcpOptServerId, d.ip.bytes), (dhcpOptSubnetMask, d.nm.bytes),
    (dhcpOptRouter, d.ip.bytes), (dhcpOptDns, d.ip.bytes),
    (dhcpOptIpLeaseTime, BigEndian.write 4 defaultLeaseTimeS)]

theorem replyFields_same {next d : DhcpServer} (ip : next.ip = d.ip) (nm : next.nm = d.nm)
    (msgType : Byte) : replyFields next msgType = replyFields d msgType := by
  rw [replyFields, ip, nm, replyFields]

theorem replyOptions_fields (d : DhcpServer) (msgType : Byte) :
    replyOptions d msgType = fieldsBytes (replyFields d msgType) ++ [dhcpOptEnd] := by
  simp only [replyOptions, replyFields, fieldsBytes, List.flatMap_cons, List.flatMap_nil,
    List.append_assoc, List.append_nil]

theorem replyFields_writable (d : DhcpServer) (msgType : Byte) :
    ∀ field ∈ replyFields d msgType, Writable field := by
  have ip : d.ip.bytes.length < 256 := by rw [d.ip.four]; decide
  have nm : d.nm.bytes.length < 256 := by rw [d.nm.four]; decide
  simp only [replyFields, List.forall_mem_cons, Writable, List.length_singleton, ip, nm,
    List.not_mem_nil, false_implies, implies_true, and_true]
  decide

/-- An option of a datagram, found as the server finds those of a request. -/
def optionOf (p : Bytes) (cmd : Byte) : Checked (Option Bytes) :=
  readOption (Memory.receive dhcpMsgSize p) (optionsOffset + 4) (optionsOf p).length cmd

theorem replyBytes_options (next d : DhcpServer) {p : Bytes} (long : dhcpMinSize ≤ p.length)
    (yi : Nat) (msgType cmd : Byte) :
    optionOf (replyBytes next (messageBytes d p) yi msgType) cmd =
      .ok ((replyFields next msgType).lookup cmd) := by
  have room := messageBytes_room d long
  have length := replyBytes_length next room yi msgType
  have fits : (replyBytes next (messageBytes d p) yi msgType).length ≤ dhcpMsgSize := by
    rw [length]
    decide
  refine fields_read (Memory.receive_holds dhcpMsgSize _) (replyFields_writable next msgType) ?_ cmd
  rw [List.take_of_length_le fits, replyBytes, List.drop_left' (front_length room _),
    replyOptions_fields]

/-- The loop over the leases leaves the server's own addresses alone. -/
theorem discoverFrom_nm {chaddr : Bytes} {ticks : Nat} {d next : DhcpServer} {yi i found : Nat}
    (ran : discoverFrom chaddr ticks d yi i = .ok (next, found)) : next.nm = d.nm := by
  fun_induction discoverFrom chaddr ticks d yi i with
  | case1 d yi i more later found searched =>
    rw [d.leaseAt_ok more, ok_bind] at ran
    by_cases known : (d.lease ⟨i, more⟩).mac = chaddr
    · rw [if_pos known] at ran
      cases ran
      rfl
    · rw [if_neg known] at ran
      by_cases searching : yi = dhcpsMaxIp
      · rw [if_pos searching] at ran
        dsimp only at ran
        by_cases old : expired (d.lease ⟨i, more⟩).expiry ticks = true
        · rw [if_pos old, d.setLease_ok more, ok_bind] at ran
          have kept := later searching _ ran
          exact kept
        · rw [if_neg old] at ran
          exact found (d.lease ⟨i, more⟩) searching ran
      · rw [if_neg searching] at ran
        exact searched ran
  | case2 d yi i done =>
    cases ran
    rfl

/-- What is sent, and for what: an offer for a `DHCPDISCOVER`, an acknowledgement
for the `DHCPREQUEST` for the address it gives. -/
theorem dhcpServerProcess_replies (d : DhcpServer) (ticks : Nat) (p : Bytes) :
    ∃ next answer, dhcpServerProcess d ticks p = .ok (next, answer) ∧
      next.ip = d.ip ∧ next.nm = d.nm ∧
      ∀ reply ∈ answer, dhcpMinSize ≤ p.length ∧ ∃ (slot : Fin dhcpsMaxIp) (msgType : Byte),
        (MessageType p dhcpDiscover ∧ msgType = dhcpOffer ∨
          Requests d.ip p slot ∧ msgType = dhcpAck) ∧
        reply = replyBytes next (messageBytes d p) slot msgType := by
  rcases dhcpServerProcess_reads d ticks p with
    ⟨ignored, -⟩ | ⟨msgType, msg, only, holds, long, ran⟩
  · exact ⟨d, none, ignored, rfl, rfl, fun reply impossible => by cases impossible⟩
  · have header : optionsOffset ≤ (messageBytes d p).length :=
      Nat.le_of_add_right_le (messageBytes_room d long)
    by_cases discover : msgType = dhcpDiscover
    · subst discover
      obtain ⟨next, yi, looped, low, cleared, switched⟩ :=
        switchMsgType_discover holds header d ticks (optionsOffset + 4)
      rw [messageBytes_options d long] at switched
      rw [switched, ok_bind] at ran
      refine ⟨next, _, ran, cleared.ip, discoverFrom_nm looped, fun reply answered => ?_⟩
      obtain ⟨⟨given, replyType⟩, chosen, rfl⟩ := Option.map_eq_some_iff.mp answered
      by_cases full : yi = dhcpsMaxIp
      · rw [if_pos full] at chosen
        cases chosen
      · rw [if_neg full] at chosen
        cases chosen
        exact ⟨long, ⟨yi, Nat.lt_of_le_of_ne low full⟩, dhcpOffer,
          .inl ⟨(only _).mpr rfl, rfl⟩, rfl⟩
    · by_cases request : msgType = dhcpRequest
      · subst request
        have what := switchMsgType_request holds header d ticks (optionsOffset + 4)
        rw [messageBytes_options d long] at what
        rcases what with ⟨yi, inside, asks, -, switched⟩ | ⟨-, switched⟩
        · rw [switched, ok_bind] at ran
          refine ⟨_, _, ran, rfl, rfl, fun reply answered => ?_⟩
          cases answered
          exact ⟨long, ⟨yi, inside⟩, dhcpAck, .inr ⟨⟨(only _).mpr rfl, asks⟩, rfl⟩, rfl⟩
        · rw [switched, ok_bind] at ran
          exact ⟨d, _, ran, rfl, rfl, fun reply impossible => by cases impossible⟩
      · rw [switchMsgType, if_neg discover, if_neg request, ok_bind] at ran
        exact ⟨d, _, ran, rfl, rfl, fun reply impossible => by cases impossible⟩

/-- A reply gives the client of the message the address of a lease, in an offer for
a `DHCPDISCOVER` and in an acknowledgement for the `DHCPREQUEST` for it. Apart from
the address its fixed part is the message's, and its options say who the server is,
that it is router and name server too, the netmask and the lease time, and nothing
else. -/
theorem replies_name_the_server (d : DhcpServer) (ticks : Nat) (p : Bytes) :
    ∃ next answer, dhcpServerProcess d ticks p = .ok (next, answer) ∧
      ∀ reply ∈ answer, ∃ (slot : Fin dhcpsMaxIp) (msgType : Byte),
        (MessageType p dhcpDiscover ∧ msgType = dhcpOffer ∨
          Requests d.ip p slot ∧ msgType = dhcpAck) ∧
        reply.take (optionsOffset + 4) = replyHeader d.ip p slot ∧
        ∀ cmd, optionOf reply cmd = .ok ((replyFields d msgType).lookup cmd) := by
  obtain ⟨next, answer, ran, ip, nm, replies⟩ := dhcpServerProcess_replies d ticks p
  refine ⟨next, answer, ran, fun reply answered => ?_⟩
  obtain ⟨long, slot, msgType, typed, rfl⟩ := replies reply answered
  refine ⟨slot, msgType, typed, replyBytes_header long slot msgType, fun cmd => ?_⟩
  rw [replyBytes_options next d long, replyFields_same ip nm]

end PicowDayClock.DhcpReplies
