import PicowDayClock.Firmware.DnsServer

/-! Which datagrams the name server answers, and with what. The loop over the
labels finds the end of a name exactly where the received bytes spell one; all
else is a matter of bounds, which keep every access inside the buffer. -/
namespace PicowDayClock.CaptiveDns
open BigEndian (Ip4Addr)
open Checked DnsServer

/-! ## Questions and answers -/

/-- A name on the wire: each label behind its length, and a zero. -/
def nameBytes (labels : List Bytes) : Bytes :=
  labels.flatMap (fun label => UInt8.ofNat label.length :: label) ++ [0]

/-- Labels that a name can consist of. -/
def ValidLabels (labels : List Bytes) : Prop :=
  ∀ label ∈ labels, 1 ≤ label.length ∧ label.length ≤ 63

/-- The bytes that count, `received`, ask a standard question about this name,
with this type and class, and leave room for the answer in the buffer. -/
structure Asks (received : Bytes) (labels : List Bytes) (typeClass : Bytes) : Prop where
  header : dnsHeaderSize ≤ received.length
  query : (BigEndian.read ((received.drop 2).take 2)).testBit 15 = false
  standard : BigEndian.read ((received.drop 2).take 2) / 2 ^ 11 % 2 ^ 4 = 0
  counted : 1 ≤ BigEndian.read ((received.drop 4).take 2)
  valid : ValidLabels labels
  named : nameBytes labels ++ typeClass <+: received.drop dnsHeaderSize
  short : (nameBytes labels).length ≤ 255
  complete : typeClass.length = 4
  room : dnsHeaderSize + (nameBytes labels ++ typeClass).length + 16 ≤ maxDnsMsgSize

/-- The reply to a question: the identification of the request, the flags of an
authoritative response, one question and one answer, the question as it came,
and a record that points at it. -/
def replyTo (ip : Ip4Addr) (received question : Bytes) : Bytes :=
  received.take 2 ++ [0x84, 0x80, 0, 1, 0, 1, 0, 0, 0, 0] ++ question ++
    [0xC0, 12, 0, 1, 0, 1, 0, 0, 0, 60, 0, 4] ++ ip.bytes

/-! ## Names -/

theorem nameBytes_cons (label : Bytes) (labels : List Bytes) :
    nameBytes (label :: labels) =
      UInt8.ofNat label.length :: (label ++ nameBytes labels) := by
  simp only [nameBytes, List.flatMap_cons, List.cons_append, List.append_assoc]

theorem nameBytes_pos (labels : List Bytes) : 0 < (nameBytes labels).length := by
  simp [nameBytes]

theorem append_prefix_iff {front back whole : Bytes} :
    front ++ back <+: whole ↔ front = whole.take front.length ∧ back <+: whole.drop front.length := by
  constructor
  · rintro ⟨rest, rfl⟩
    rw [List.append_assoc, List.take_left, List.drop_left]
    exact ⟨rfl, List.prefix_append back rest⟩
  · rintro ⟨starts, follows⟩
    have joined : front ++ back <+: front ++ whole.drop front.length :=
      (List.prefix_append_right_inj front).mpr follows
    have whole_ : front ++ whole.drop front.length = whole := by
      conv => lhs; arg 1; rw [starts]
      exact List.take_append_drop _ _
    rwa [whole_] at joined

theorem append_prefix_left {front back whole : Bytes} (both : front ++ back <+: whole) :
    front <+: whole := (List.prefix_append front back).trans both

/-- The length byte of a label gives the length back. -/
theorem lengthByte_toNat {label : Bytes} (short : label.length ≤ 63) :
    (UInt8.ofNat label.length).toNat = label.length := by
  rw [UInt8.toNat_ofNat']
  omega

/-- These bytes begin with a name of this length. -/
def Spells (bytes : Bytes) (length : Nat) : Prop :=
  ∃ labels, ValidLabels labels ∧ nameBytes labels <+: bytes ∧ length = (nameBytes labels).length

theorem spells_nil (length : Nat) : ¬ Spells [] length := by
  rintro ⟨labels, -, spelled, -⟩
  have := nameBytes_pos labels
  rw [List.prefix_nil.mp spelled] at this
  exact Nat.lt_irrefl 0 this

/-- Only the name without labels begins with a zero. -/
theorem spells_zero (rest : Bytes) (length : Nat) : Spells (0 :: rest) length ↔ length = 1 := by
  constructor
  · rintro ⟨labels, valid, spelled, rfl⟩
    cases labels with
    | nil => rfl
    | cons label labels =>
      rw [nameBytes_cons, List.cons_prefix_cons] at spelled
      obtain ⟨some_, short⟩ := valid label List.mem_cons_self
      have := lengthByte_toNat short
      rw [spelled.1] at this
      exact absurd this (by simp only [UInt8.toNat_zero]; omega)
  · rintro rfl
    exact ⟨[], by simp [ValidLabels], List.prefix_append [0] rest, rfl⟩

/-- A name that begins otherwise begins with the length of its first label. -/
theorem spells_label {byte : Byte} (some_ : byte ≠ 0) (rest : Bytes) (length : Nat) :
    Spells (byte :: rest) length ↔ byte.toNat ≤ 63 ∧
      ∃ later, Spells (rest.drop byte.toNat) later ∧ length = 1 + byte.toNat + later := by
  constructor
  · rintro ⟨labels, valid, spelled, rfl⟩
    cases labels with
    | nil =>
      rw [nameBytes, List.flatMap_nil, List.nil_append, List.cons_prefix_cons] at spelled
      exact absurd spelled.1.symm some_
    | cons label labels =>
      rw [nameBytes_cons, List.cons_prefix_cons, append_prefix_iff] at spelled
      obtain ⟨lengthByte, -, behind⟩ := spelled
      obtain ⟨-, short⟩ := valid label List.mem_cons_self
      have counted : byte.toNat = label.length := by
        rw [← lengthByte, lengthByte_toNat short]
      have others : ValidLabels labels := fun other member =>
        valid other (List.mem_cons_of_mem label member)
      rw [counted]
      refine ⟨short, _, ⟨labels, others, behind, rfl⟩, ?_⟩
      rw [nameBytes_cons, List.length_cons, List.length_append]
      omega
  · rintro ⟨short, later, ⟨labels, valid, spelled, rfl⟩, rfl⟩
    have long : byte.toNat ≤ rest.length := by
      by_contra beyond
      rw [List.drop_eq_nil_of_le (by omega)] at spelled
      exact spells_nil _ ⟨labels, valid, spelled, rfl⟩
    have counted : (rest.take byte.toNat).length = byte.toNat := List.length_take_of_le long
    have some_ : 0 < byte.toNat := by
      rw [Nat.pos_iff_ne_zero, Ne, ← UInt8.toNat_zero, UInt8.toNat_inj]
      exact some_
    refine ⟨rest.take byte.toNat :: labels, ?_, ?_, ?_⟩
    · intro label member
      rcases List.mem_cons.mp member with rfl | other
      · rw [counted]
        exact ⟨some_, short⟩
      · exact valid label other
    · rw [nameBytes_cons, counted, UInt8.ofNat_toNat, List.cons_prefix_cons, append_prefix_iff,
        counted]
      exact ⟨rfl, rfl, spelled⟩
    · rw [nameBytes_cons, List.length_cons, List.length_append, counted]
      omega

/-- The loop has a result from every place, the end of a name exactly if one is
spelled there. -/
theorem skipQname_finds {dnsMsg : Memory} {received : Bytes} (holds : dnsMsg.Holds received)
    (questionPtr : Nat) :
    ∃ found, skipQname dnsMsg received.length questionPtr = .ok found ∧
      ∀ nameEnd, found = some nameEnd ↔
        ∃ length, Spells (received.drop questionPtr) length ∧ nameEnd = questionPtr + length := by
  induction distance : received.length - questionPtr using Nat.strong_induction_on
    generalizing questionPtr with
  | _ distance ih =>
    rw [skipQname]
    by_cases inside : questionPtr < received.length
    · have loaded : dnsMsg.load questionPtr = .ok received[questionPtr] :=
        Memory.load_ok holds (List.getElem?_eq_getElem inside)
      have here : received.drop questionPtr =
          received[questionPtr] :: received.drop (questionPtr + 1) :=
        List.drop_eq_getElem_cons inside
      rw [dif_pos inside, loaded, ok_bind, here]
      generalize received[questionPtr] = byte
      by_cases zero : byte = 0
      · refine ⟨some (questionPtr + 1), if_pos zero, fun nameEnd => ?_⟩
        simp only [zero, spells_zero, exists_eq_left, Option.some.injEq]
        exact eq_comm
      · simp only [if_neg zero, spells_label zero, List.drop_drop]
        by_cases short : byte.toNat ≤ 63
        · by_cases within : questionPtr + 1 + byte.toNat ≤ received.length
          · obtain ⟨found, ran, finds⟩ := ih _ (by omega) (questionPtr + 1 + byte.toNat) rfl
            refine ⟨found, ?_, fun nameEnd => ?_⟩
            · rw [if_neg (Nat.not_lt.mpr short), if_neg (Nat.not_lt.mpr within), ran]
            · rw [finds]
              constructor
              · rintro ⟨later, spelled, rfl⟩
                exact ⟨_, ⟨short, later, spelled, rfl⟩, by omega⟩
              · rintro ⟨_, ⟨-, later, spelled, rfl⟩, rfl⟩
                exact ⟨later, spelled, by omega⟩
          · -- the label would end behind the datagram, where nothing can be spelled
            refine ⟨none, ?_, fun nameEnd => ?_⟩
            · rw [if_neg (Nat.not_lt.mpr short), if_pos (Nat.not_le.mp within)]
            · rw [List.drop_eq_nil_of_le (by omega)]
              simp [spells_nil]
        · refine ⟨none, if_pos (Nat.not_le.mp short), fun nameEnd => ?_⟩
          simp [short]
    · refine ⟨none, dif_neg inside, fun nameEnd => ?_⟩
      rw [List.drop_eq_nil_of_le (by omega)]
      simp [spells_nil]

/-! ## Replies -/

/-- The header of a reply behind the identification. -/
def replyHeader : Bytes := [0x84, 0x80, 0, 1, 0, 1, 0, 0, 0, 0]

theorem writeReply_eq (ip : Ip4Addr) (dnsMsg : Memory) (answerPtr : Nat) :
    writeReply ip dnsMsg answerPtr =
      dnsMsg.write answerPtr (answerRecord ip) >>= fun dnsMsg => dnsMsg.write 2 replyHeader := by
  have parts : replyHeader = BigEndian.write 2 responseFlags ++ (BigEndian.write 2 1 ++
      (BigEndian.write 2 1 ++ (BigEndian.write 2 0 ++ BigEndian.write 2 0))) := by decide
  have two : ∀ number, (BigEndian.write 2 number).length = 2 := fun number => rfl
  rw [parts, writeReply]
  simp only [Memory.write_write, two]

theorem answerRecord_length (ip : Ip4Addr) : (answerRecord ip).length = 16 := by
  rw [answerRecord, List.length_append, ip.four]
  rfl

theorem replyTo_length (ip : Ip4Addr) {received : Bytes} (header : 2 ≤ received.length)
    (question : Bytes) :
    (replyTo ip received question).length = dnsHeaderSize + question.length + 16 := by
  simp only [replyTo, List.length_append, List.length_take, ip.four, List.length_cons,
    List.length_nil, dnsHeaderSize]
  omega

/-- What is written and read back for a question that fits. -/
theorem writeReply_reads (ip : Ip4Addr) {dnsMsg : Memory} {received : Bytes}
    (holds : dnsMsg.Holds received) {size : Nat}
    (inside : dnsHeaderSize + size ≤ received.length)
    (room : dnsHeaderSize + size + 16 ≤ dnsMsg.length) :
    ∃ next, writeReply ip dnsMsg (dnsHeaderSize + size) = .ok next ∧
      next.read 0 (dnsHeaderSize + size + 16) =
        .ok (replyTo ip received ((received.drop dnsHeaderSize).take size)) := by
  have header : dnsHeaderSize = 12 := rfl
  have asked : (received.take (dnsHeaderSize + size)).length = dnsHeaderSize + size :=
    List.length_take_of_le inside
  have record := answerRecord_length ip
  have fits : (received.take (dnsHeaderSize + size)).length + (answerRecord ip).length ≤
      dnsMsg.length := by
    rw [asked, record]
    exact room
  obtain ⟨answered, written, -, held⟩ := (holds.take (dnsHeaderSize + size)).write fits
  have behind : 2 + replyHeader.length ≤
      (received.take (dnsHeaderSize + size) ++ answerRecord ip).length := by
    rw [List.length_append, asked, record, replyHeader]
    simp only [List.length_cons, List.length_nil]
    omega
  obtain ⟨next, headed, -, complete⟩ := held.overwrite behind
  have whole : patch (received.take (dnsHeaderSize + size) ++ answerRecord ip) 2 replyHeader =
      replyTo ip received ((received.drop dnsHeaderSize).take size) := by
    have ends : 2 + replyHeader.length = dnsHeaderSize := rfl
    rw [patch, ends, List.take_append_of_le_length (by omega), List.take_take,
      List.drop_append_of_le_length (by omega), List.drop_take, Nat.add_sub_cancel_left,
      Nat.min_eq_left (by omega)]
    simp only [replyTo, replyHeader, answerRecord, header, List.append_assoc]
    rfl
  refine ⟨next, ?_, ?_⟩
  · rw [writeReply_eq, ← asked, written, ok_bind, headed]
  · rw [whole] at complete
    have length : (replyTo ip received ((received.drop dnsHeaderSize).take size)).length =
        dnsHeaderSize + size + 16 := by
      rw [replyTo_length ip (by omega), List.length_take_of_le (by rw [List.length_drop]; omega)]
    rw [Memory.read_ok complete (by omega), List.drop_zero, List.take_of_length_le (by omega)]

/-! ## The whole server -/

/-- What the code checks of a datagram, with the length of the name it found. -/
structure Accepted (received : Bytes) (length : Nat) : Prop where
  header : dnsHeaderSize ≤ received.length
  query : BigEndian.read ((received.drop 2).take 2) >>> 15 &&& 1 = 0
  standard : BigEndian.read ((received.drop 2).take 2) >>> 11 &&& 0xF = 0
  counted : 1 ≤ BigEndian.read ((received.drop 4).take 2)
  spelled : Spells (received.drop dnsHeaderSize) length
  short : length ≤ 255
  complete : dnsHeaderSize + length + 4 ≤ received.length
  room : dnsHeaderSize + length + 4 + 16 ≤ maxDnsMsgSize

theorem flags_query_iff (flags : Nat) : flags.testBit 15 = false ↔ flags >>> 15 &&& 1 = 0 := by
  rw [Nat.testBit, Nat.and_comm]
  simp

theorem flags_standard_iff (flags : Nat) :
    flags / 2 ^ 11 % 2 ^ 4 = 0 ↔ flags >>> 11 &&& 0xF = 0 := by
  rw [Nat.shiftRight_eq_div_pow, show 0xF = 2 ^ 4 - 1 by rfl, Nat.and_two_pow_sub_one_eq_mod]

/-- The questions asked are those accepted. -/
theorem asks_iff_accepted (ip : Ip4Addr) (received reply : Bytes) :
    (∃ labels typeClass, Asks received labels typeClass ∧
        reply = replyTo ip received (nameBytes labels ++ typeClass) ∧
        reply.length = dnsHeaderSize + (nameBytes labels ++ typeClass).length + 16) ↔
      ∃ length, Accepted received length ∧
        reply = replyTo ip received ((received.drop dnsHeaderSize).take (length + 4)) := by
  constructor
  · rintro ⟨labels, typeClass, asks, rfl, -⟩
    have question := List.prefix_iff_eq_take.mp asks.named
    have size : (nameBytes labels ++ typeClass).length = (nameBytes labels).length + 4 := by
      rw [List.length_append, asks.complete]
    have inside := asks.named.length_le
    rw [size, List.length_drop] at inside
    have header := asks.header
    have room := asks.room
    rw [size] at room question
    refine ⟨(nameBytes labels).length, ?_, by rw [← question]⟩
    constructor
    · exact header
    · exact (flags_query_iff _).mp asks.query
    · exact (flags_standard_iff _).mp asks.standard
    · exact asks.counted
    · exact ⟨labels, asks.valid, (append_prefix_left asks.named), rfl⟩
    · exact asks.short
    · omega
    · omega
  · rintro ⟨length, accepted, rfl⟩
    obtain ⟨labels, valid, spelled, rfl⟩ := accepted.spelled
    have header := accepted.header
    have complete := accepted.complete
    have room := accepted.room
    -- the four bytes behind the name are its type and class
    let typeClass := ((received.drop dnsHeaderSize).drop (nameBytes labels).length).take 4
    have four : typeClass.length = 4 := by
      apply List.length_take_of_le
      simp only [List.length_drop]
      omega
    have question : (received.drop dnsHeaderSize).take ((nameBytes labels).length + 4) =
        nameBytes labels ++ typeClass := by
      rw [List.take_add, ← List.prefix_iff_eq_take.mp spelled]
    refine ⟨labels, typeClass, ?_, by rw [question], ?_⟩
    swap
    · rw [question]
      exact replyTo_length ip (Nat.le_trans (by decide) header) _
    constructor
    · exact header
    · exact (flags_query_iff _).mpr accepted.query
    · exact (flags_standard_iff _).mpr accepted.standard
    · exact accepted.counted
    · exact valid
    · rw [← question]
      exact List.take_prefix _ _
    · exact accepted.short
    · exact four
    · rw [List.length_append, four]
      omega

/-- A run replies to what is accepted and to nothing else. -/
def Answers (ip : Ip4Addr) (received : Bytes) (run : Checked (Option Bytes)) : Prop :=
  ∃ answer, run = .ok answer ∧ ∀ reply, answer = some reply ↔ ∃ length, Accepted received length ∧
    reply = replyTo ip received ((received.drop dnsHeaderSize).take (length + 4))

section answers

variable {ip : Ip4Addr} {received : Bytes} {dnsMsg : Memory} {length : Nat}

/-- What is not accepted has no reply. -/
theorem Answers.silent {run : Checked (Option Bytes)} (ran : run = .ok none)
    (never : ∀ length, ¬ Accepted received length) : Answers ip received run := by
  refine ⟨none, ran, fun reply => ?_⟩
  constructor
  · intro impossible
    cases impossible
  · rintro ⟨length, accepted, -⟩
    exact absurd accepted (never length)

/-- With the name found, what is left are the three bounds. -/
theorem named_answers (holds : dnsMsg.Holds received) (size : dnsMsg.length = maxDnsMsgSize)
    (accepted : length ≤ 255 → dnsHeaderSize + length + 4 ≤ received.length →
      dnsHeaderSize + length + 4 + 16 ≤ maxDnsMsgSize → Accepted received length)
    (only : ∀ other, Accepted received other → other = length) :
    Answers ip received (
      if length > 255 then .ok none
      else if dnsHeaderSize + length + 4 > received.length then .ok none
      else if dnsHeaderSize + length + 4 + 16 > maxDnsMsgSize then .ok none
      else do
        let dnsMsg ← writeReply ip dnsMsg (dnsHeaderSize + length + 4)
        let reply ← dnsMsg.read 0 (dnsHeaderSize + length + 4 + 16)
        .ok (some reply)) := by
  by_cases short : length ≤ 255
  · rw [if_neg (Nat.not_lt.mpr short)]
    by_cases complete : dnsHeaderSize + length + 4 ≤ received.length
    · rw [if_neg (Nat.not_lt.mpr complete)]
      by_cases room : dnsHeaderSize + length + 4 + 16 ≤ maxDnsMsgSize
      · rw [if_neg (Nat.not_lt.mpr room)]
        have fits : dnsHeaderSize + (length + 4) + 16 ≤ dnsMsg.length := by
          rw [size]
          exact room
        obtain ⟨next, written, read⟩ := writeReply_reads ip holds complete fits
        rw [Nat.add_assoc dnsHeaderSize length 4, written, ok_bind, read, ok_bind]
        refine ⟨_, rfl, fun reply => ?_⟩
        constructor
        · rintro same
          injection same with same
          exact ⟨length, accepted short complete room, same.symm⟩
        · rintro ⟨other, otherAccepted, rfl⟩
          rw [only other otherAccepted]
      · refine .silent (if_pos (Nat.not_le.mp room)) fun other accepted => ?_
        rw [only other accepted] at accepted
        exact room accepted.room
    · refine .silent (if_pos (Nat.not_le.mp complete)) fun other accepted => ?_
      rw [only other accepted] at accepted
      exact complete accepted.complete
  · refine .silent (if_pos (Nat.not_le.mp short)) fun other accepted => ?_
    rw [only other accepted] at accepted
    exact short accepted.short

end answers

/-- The checks of the header come first, then the name. -/
theorem dnsServerProcess_answers (ip : Ip4Addr) (p : Bytes) :
    Answers ip (p.take maxDnsMsgSize) (dnsServerProcess ip p) := by
  have holds := Memory.receive_holds maxDnsMsgSize p
  have size := Memory.receive_length maxDnsMsgSize p
  have length : min p.length maxDnsMsgSize = (p.take maxDnsMsgSize).length := by
    rw [List.length_take, Nat.min_comm]
  simp only [dnsServerProcess, length]
  generalize p.take maxDnsMsgSize = received at *
  generalize Memory.receive maxDnsMsgSize p = dnsMsg at *
  by_cases header : dnsHeaderSize ≤ received.length
  · have twelve : dnsHeaderSize = 12 := rfl
    rw [if_neg (Nat.not_lt.mpr header), Memory.read_ok holds (by omega), ok_bind,
      Memory.read_ok holds (by omega), ok_bind]
    by_cases query : BigEndian.read ((received.drop 2).take 2) >>> 15 &&& 1 = 0
    · rw [if_neg (not_not.mpr query)]
      by_cases standard : BigEndian.read ((received.drop 2).take 2) >>> 11 &&& 0xF = 0
      · rw [if_neg (not_not.mpr standard)]
        by_cases counted : 1 ≤ BigEndian.read ((received.drop 4).take 2)
        · rw [if_neg (Nat.not_lt.mpr counted)]
          obtain ⟨found, ran, finds⟩ := skipQname_finds holds dnsHeaderSize
          rw [ran, ok_bind]
          cases found with
          | none =>
            refine .silent rfl fun length accepted => ?_
            cases (finds (dnsHeaderSize + length)).mpr ⟨length, accepted.spelled, rfl⟩
          | some nameEnd =>
            obtain ⟨length, spelled, rfl⟩ := (finds nameEnd).mp rfl
            -- no other name can be spelled there
            have only : ∀ other, Accepted received other → other = length := by
              intro other accepted
              have same := (finds (dnsHeaderSize + other)).mpr ⟨other, accepted.spelled, rfl⟩
              injection same with same
              omega
            dsimp only
            rw [Nat.add_sub_cancel_left]
            exact named_answers holds size
              (fun short complete room => ⟨header, query, standard, counted, spelled, short,
                complete, room⟩) only
        · exact .silent (if_pos (Nat.not_le.mp counted)) fun _ accepted => counted accepted.counted
      · exact .silent (if_pos standard) fun _ accepted => standard accepted.standard
    · exact .silent (if_pos query) fun _ accepted => query accepted.query
  · exact .silent (if_pos (Nat.not_le.mp header)) fun _ accepted => header accepted.header

/-- Whatever arrives, the server stays inside its buffer, and it replies exactly
to what asks it a question: with the answer to the first one, of 12 bytes more
than the question and 16 again. Only the first 300 bytes count. -/
theorem captive_dns_answers (ip : Ip4Addr) (p : Bytes) :
    ∃ answer, dnsServerProcess ip p = .ok answer ∧
      ∀ reply, answer = some reply ↔ ∃ labels typeClass,
        Asks (p.take maxDnsMsgSize) labels typeClass ∧
          reply = replyTo ip (p.take maxDnsMsgSize) (nameBytes labels ++ typeClass) ∧
          reply.length = dnsHeaderSize + (nameBytes labels ++ typeClass).length + 16 := by
  simp only [asks_iff_accepted]
  exact dnsServerProcess_answers ip p

end PicowDayClock.CaptiveDns
