import PicowDayClock.AccessPoint
import PicowDayClock.RequestText

/-! A request that arrives in segments against the same request in one. Every
call of `tcp_server_recv` reads the whole text accumulated so far, so what a
segment leads to is decided by the position at which it ends: by what of the
request has been reached there. -/
namespace PicowDayClock.RequestSegmentation
open ConfigForm Wifi RequestText
open AccessPoint (plainSession)

/-! ## Deliveries -/

/-- What segments delivered one after the other lead to: the calls of
`store_config`, the bytes given to `tcp_write`, and the value returned by a
callback that has closed the connection. -/
structure Delivery where
  stores : List FlashConfig
  written : Bytes
  closedWith : Option ErrT
  deriving DecidableEq

def Delivery.nothing : Delivery := ⟨[], [], none⟩

/-- What comes later counts only while the connection is open. -/
def Delivery.followedBy (first later : Delivery) : Delivery :=
  match first.closedWith with
  | some _ => first
  | none => ⟨first.stores ++ later.stores, first.written ++ later.written, later.closedWith⟩

/-- Segments given to `tcp_server_recv` one after the other, with no other
event in between. -/
def deliver (session : Session) (closes : ErrT) (con : TcpConnectState) : List Bytes → Delivery
  | [] => .nothing
  | segment :: segments =>
    let served := tcpServerRecv session con (some segment) closes
    Delivery.followedBy ⟨served.stores, served.written, served.closedWith⟩
      (deliver session closes served.con segments)

/-- Two deliveries that cannot be told apart: the same configurations stored,
the same bytes written, and no error in one that is not in the other. -/
def Delivery.Same (first second : Delivery) : Prop :=
  first.stores = second.stores ∧ first.written = second.written ∧
    ∀ error ≠ .ok, first.closedWith = some error ↔ second.closedWith = some error

/-- The positions in the whole at which a segment ends and another begins. -/
def cuts : Nat → List Bytes → List Nat
  | start, segment :: next :: segments =>
    (start + segment.length) :: cuts (start + segment.length) (next :: segments)
  | _, _ => []

/-! ## What of a request has been reached -/

/-- Where the first occurrence of a needle ends. -/
def endOf (request needle : Bytes) : Option Nat :=
  (strstr request needle).map (· + needle.length)

/-- Where the line of the first `Content-Length: ` ends. -/
def lengthLineEnd (request : Bytes) : Option Nat :=
  (strstr request contentLengthKey).bind fun key =>
    (endOf (request.drop key) crlf).map (key + ·)

/-- The position exists, and the first `cut` bytes go as far. -/
def Reached (position : Option Nat) (cut : Nat) : Prop := ∃ reached ∈ position, reached ≤ cut

instance (position : Option Nat) (cut : Nat) : Decidable (Reached position cut) :=
  inferInstanceAs (Decidable (∃ reached ∈ position, reached ≤ cut))

/-- The first `cut` bytes hold all that a POST announces: its empty line, and
as many bytes behind it as the `Content-Length: ` line says, if they hold one. -/
def SeemsWhole (request : Bytes) (cut : Nat) : Prop :=
  Reached (endOf request (crlf ++ crlf)) cut ∧
    (Reached (endOf request contentLengthKey) cut →
      Reached (lengthLineEnd request) cut ∧
        ∃ announced ∈ expectedBodyLen request, ∃ head ∈ endOf request (crlf ++ crlf),
          (head : Int) + announced ≤ cut)

instance (request : Bytes) (cut : Nat) : Decidable (SeemsWhole request cut) :=
  inferInstanceAs (Decidable (_ ∧ (_ → _ ∧ ∃ announced ∈ expectedBodyLen request, _)))

/-- The segment that ends at this position of the request is answered or refused
although the request goes on. -/
def Breaks (request : Bytes) (cut : Nat) : Prop :=
  if isPost request then
    (Reached (endOf request contentLengthKey) cut ∧ ¬ Reached (lengthLineEnd request) cut ∧
      expectedBodyLen request ≠ none) ∨ SeemsWhole request cut
  else Reached (endOf request crlf) cut

instance (request : Bytes) (cut : Nat) : Decidable (Breaks request cut) :=
  inferInstanceAs (Decidable (if isPost request = true then _ else _))

/-- A well-formed request: a POST whose head has a `Content-Length: ` line that
gives the length of its body, or a GET that ends with its empty line. -/
def WellFormed (request : Bytes) : Prop :=
  if isPost request then
    ∃ head ∈ strstr request (crlf ++ crlf), ∃ key ∈ strstr request contentLengthKey,
      key < head ∧ expectedBodyLen request = some (request.length - (head + 4) : Int)
  else startsWith request (ascii "GET ") ∧
    endOf request (crlf ++ crlf) = some request.length

instance (request : Bytes) : Decidable (WellFormed request) :=
  inferInstanceAs (Decidable (if isPost request = true then _ else _))

/-! ## The first bytes of a request -/

theorem reached_endOf {request needle : Bytes} {cut : Nat} :
    Reached (endOf request needle) cut ↔
      ∃ position, strstr request needle = some position ∧ position + needle.length ≤ cut := by
  simp [Reached, endOf]

theorem reached_later {position : Option Nat} {cut later : Nat} (reached : Reached position cut)
    (le : cut ≤ later) : Reached position later := by
  obtain ⟨found, there, before⟩ := reached
  exact ⟨found, there, Nat.le_trans before le⟩

theorem strstr_take_reached {request needle : Bytes} {cut : Nat} (nonempty : needle ≠ [])
    (reached : Reached (endOf request needle) cut) :
    strstr (request.take cut) needle = strstr request needle := by
  obtain ⟨position, found, before⟩ := reached_endOf.mp reached
  rw [strstr_take nonempty, found, Option.filter_some_pos (by simpa using before)]

theorem strstr_take_unreached {request needle : Bytes} {cut : Nat} (nonempty : needle ≠ [])
    (unreached : ¬ Reached (endOf request needle) cut) :
    strstr (request.take cut) needle = none := by
  rw [strstr_take nonempty, Option.filter_eq_none_iff]
  intro position found before
  exact unreached (reached_endOf.mpr ⟨position, found, by simpa using before⟩)

theorem isPost_take (request : Bytes) (cut : Nat) :
    isPost (request.take cut) = true ↔ isPost request = true ∧ 5 ≤ cut := by
  simp only [isPost, startsWith, List.isPrefixOf_iff_prefix, List.prefix_take_iff]
  exact Iff.rfl

theorem crlf_behind {line request : Bytes} {cut : Nat} (plain : 0x0D ∉ line)
    (starts : line <+: request) (reached : Reached (endOf request crlf) cut) :
    line.length + 2 ≤ cut := by
  obtain ⟨position, found, before⟩ := reached_endOf.mp reached
  have := strstr_behind plain starts (strstr_eq_some_iff.mp found).2.1
  have length : crlf.length = 2 := rfl
  omega

/-- Where the first empty line is complete, a line is. -/
theorem crlf_of_head {request : Bytes} {cut : Nat}
    (reached : Reached (endOf request (crlf ++ crlf)) cut) : Reached (endOf request crlf) cut := by
  obtain ⟨position, found, before⟩ := reached_endOf.mp reached
  obtain ⟨within, stands, -⟩ := strstr_eq_some_iff.mp found
  have line : crlf <+: request.drop position := (List.prefix_append crlf crlf).trans stands
  have lengths : crlf.length = 2 ∧ (crlf ++ crlf).length = 4 := ⟨rfl, rfl⟩
  cases first : strstr request crlf with
  | none => exact absurd line (strstr_eq_none_iff.mp first position within)
  | some earlier =>
    have le : earlier ≤ position := by
      by_contra later
      exact (strstr_eq_some_iff.mp first).2.2 position (by omega) line
    exact reached_endOf.mpr ⟨earlier, first, by omega⟩

/-- The length read off the first bytes of a request. -/
theorem expectedBodyLen_take (request : Bytes) (cut : Nat) :
    expectedBodyLen (request.take cut) =
      if Reached (endOf request contentLengthKey) cut then
        if Reached (lengthLineEnd request) cut then expectedBodyLen request else none
      else some 0 := by
  have crlfLength : crlf.length = 2 := rfl
  have keyLength := contentLengthKey_length
  by_cases seen : Reached (endOf request contentLengthKey) cut
  · rw [if_pos seen]
    have same := strstr_take_reached contentLengthKey_ne_nil seen
    obtain ⟨key, found, before⟩ := reached_endOf.mp seen
    have rest : (request.take cut).drop key = (request.drop key).take (cut - key) :=
      List.drop_take
    have ends : Reached (lengthLineEnd request) cut ↔
        Reached (endOf (request.drop key) crlf) (cut - key) := by
      simp only [Reached, lengthLineEnd, found, Option.bind_some, Option.mem_def,
        Option.map_eq_some_iff]
      constructor
      · rintro ⟨_, ⟨position, stands, rfl⟩, le⟩
        exact ⟨position, stands, by omega⟩
      · rintro ⟨position, stands, le⟩
        exact ⟨key + position, ⟨position, stands, rfl⟩, by omega⟩
    by_cases ended : Reached (lengthLineEnd request) cut
    · rw [if_pos ended]
      have line := strstr_take_reached crlf_ne_nil (ends.mp ended)
      obtain ⟨lineEnd, there, le⟩ := reached_endOf.mp (ends.mp ended)
      have value : ((request.take cut).drop (key + 16)).take (lineEnd - 16) =
          (request.drop (key + 16)).take (lineEnd - 16) := by
        rw [List.drop_take, List.take_take, Nat.min_eq_left (by omega)]
      simp only [expectedBodyLen, same, found, rest, line, there, value]
    · rw [if_neg ended]
      have line := strstr_take_unreached crlf_ne_nil (fun reached => ended (ends.mpr reached))
      simp only [expectedBodyLen, same, found, rest, line]
  · rw [if_neg seen]
    simp only [expectedBodyLen, strstr_take_unreached contentLengthKey_ne_nil seen]

/-- The body in the first bytes of a request. -/
theorem bodyOf_take {request : Bytes} {cut : Nat} (within : cut ≤ request.length) :
    (bodyOf (request.take cut)).map List.length =
      ((endOf request (crlf ++ crlf)).filter (· ≤ cut)).map (cut - ·) := by
  have length : (crlf ++ crlf).length = 4 := rfl
  rw [bodyOf, strstr_take emptyLine_ne_nil, endOf]
  cases strstr request (crlf ++ crlf) with
  | none => rfl
  | some head =>
    simp only [Option.filter_some, Option.map_some, length]
    split
    · simp only [Option.map_some, List.length_drop, List.length_take, Nat.min_eq_left within]
    · rfl

/-- What is decided when only the first bytes of a POST are there. -/
theorem progress_take_post {request : Bytes} {cut : Nat} (post : isPost request = true)
    (within : cut ≤ request.length) :
    progress (request.take cut) =
      if expectedBodyLen (request.take cut) = none then .refused
      else if SeemsWhole request cut then .complete else .waiting := by
  have starts : ascii "POST " <+: request := List.isPrefixOf_iff_prefix.mp post
  by_cases named : 5 ≤ cut
  · have still : isPost (request.take cut) = true := (isPost_take request cut).mpr ⟨post, named⟩
    have body := bodyOf_take within
    unfold progress
    rw [if_pos still]
    cases announced : expectedBodyLen (request.take cut) with
    | none => simp
    | some expected =>
      rw [if_neg (by simp)]
      rw [expectedBodyLen_take] at announced
      cases there : bodyOf (request.take cut) with
      | none =>
        have head : ¬ Reached (endOf request (crlf ++ crlf)) cut := by
          rintro ⟨position, found, le⟩
          rw [there, found, Option.filter_some_pos (by simpa using le)] at body
          cases body
        rw [if_neg (fun whole => head whole.1)]
      | some text =>
        rw [there] at body
        obtain ⟨head, found, size⟩ := Option.map_eq_some_iff.mp body.symm
        have size : cut - head = text.length := size
        obtain ⟨found, le⟩ := Option.filter_eq_some_iff.mp found
        have le : head ≤ cut := by simpa using le
        have reached : Reached (endOf request (crlf ++ crlf)) cut := ⟨head, found, le⟩
        have enough : SeemsWhole request cut ↔ ¬ (text.length : Int) < expected := by
          by_cases seen : Reached (endOf request contentLengthKey) cut
          · rw [if_pos seen] at announced
            by_cases ended : Reached (lengthLineEnd request) cut
            · rw [if_pos ended] at announced
              constructor
              · rintro ⟨-, behind⟩
                obtain ⟨-, length, same, start, there, enough⟩ := behind seen
                cases announced.symm.trans same
                cases found.symm.trans there
                omega
              · intro long
                exact ⟨reached, fun _ => ⟨ended, expected, announced, head, found, by omega⟩⟩
            · rw [if_neg ended] at announced
              cases announced
          · rw [if_neg seen] at announced
            cases announced
            simp only [SeemsWhole, reached, seen, false_implies, and_self, true_iff]
            omega
        by_cases short : (text.length : Int) < expected
        · simp only [short, if_true, enough, not_true, if_false]
        · simp only [short, if_false, enough, not_false_iff, if_true]
  · -- Too little is there even to see that it is a POST, so no line end is.
    have still : ¬ isPost (request.take cut) = true := fun seen =>
      named ((isPost_take request cut).mp seen).2
    have noLine : ¬ Reached (endOf request crlf) cut := fun reached => by
      have := crlf_behind postMethod_line starts reached
      rw [postMethod_length] at this
      omega
    have noKey : ¬ Reached (endOf request contentLengthKey) cut := fun reached => by
      obtain ⟨position, -, le⟩ := reached_endOf.mp reached
      rw [contentLengthKey_length] at le
      omega
    unfold progress
    rw [if_neg still, strstr_take_unreached crlf_ne_nil noLine, expectedBodyLen_take,
      if_neg noKey, if_neg (fun whole : SeemsWhole request cut => noLine (crlf_of_head whole.1))]
    simp

/-- What is decided when only the first bytes of another request are there. -/
theorem progress_take_other {request : Bytes} {cut : Nat} (other : ¬ isPost request = true) :
    progress (request.take cut) =
      if Reached (endOf request crlf) cut then .complete else .waiting := by
  have still : ¬ isPost (request.take cut) = true := fun seen =>
    other ((isPost_take request cut).mp seen).1
  unfold progress
  rw [if_neg still]
  by_cases line : Reached (endOf request crlf) cut
  · obtain ⟨position, found, -⟩ := reached_endOf.mp line
    rw [strstr_take_reached crlf_ne_nil line, found, if_pos line]
    rfl
  · rw [strstr_take_unreached crlf_ne_nil line, if_neg line]
    rfl

/-- A cut is harmless if the segment that ends there is only kept, or refused
as the whole request is. -/
theorem not_breaks_iff {request : Bytes} {cut : Nat} (within : cut ≤ request.length) :
    ¬ Breaks request cut ↔ progress (request.take cut) ≠ .complete ∧
      (progress (request.take cut) = .refused → progress request = .refused) := by
  unfold Breaks
  by_cases post : isPost request = true
  · rw [if_pos post, progress_take_post post within, expectedBodyLen_take, progress_refused_iff]
    simp only [post, true_and]
    by_cases seen : Reached (endOf request contentLengthKey) cut
    · by_cases ended : Reached (lengthLineEnd request) cut
      · cases announced : expectedBodyLen request with
        | none => simp [seen, ended, announced, SeemsWhole]
        | some expected => by_cases whole : SeemsWhole request cut <;> simp [seen, ended, whole]
      · simp [seen, ended, SeemsWhole]
    · by_cases whole : SeemsWhole request cut <;> simp [seen, whole]
  · rw [if_neg post, progress_take_other post]
    by_cases line : Reached (endOf request crlf) cut <;> simp [line]

/-- A well-formed request breaks only where a cut falls into the value of its
`Content-Length: ` line, or, if it is a GET, behind its first line. -/
theorem wellFormed_breaks_iff {request : Bytes} {cut : Nat} (formed : WellFormed request)
    (inside : cut < request.length) :
    Breaks request cut ↔
      if isPost request then
        Reached (endOf request contentLengthKey) cut ∧ ¬ Reached (lengthLineEnd request) cut
      else Reached (endOf request crlf) cut := by
  unfold Breaks
  by_cases post : isPost request = true
  · simp only [WellFormed, post, if_true] at formed ⊢
    obtain ⟨head, empty, key, named, before, announced⟩ := formed
    have partly : ¬ SeemsWhole request cut := by
      rintro ⟨⟨ends, there, le⟩, behind⟩
      obtain ⟨_, found, rfl⟩ := Option.map_eq_some_iff.mp there
      cases empty.symm.trans found
      have emptyLength : (crlf ++ crlf).length = 4 := rfl
      have keyLength := contentLengthKey_length
      have stands := (strstr_eq_some_iff.mp named).2.1
      have line : 0x0D :: 0x0A :: crlf <+: (request.drop key).drop (head - key) := by
        rw [List.drop_drop, Nat.add_sub_cancel' (Nat.le_of_lt before)]
        exact (strstr_eq_some_iff.mp empty).2.1
      have apart := strstr_behind contentLengthKey_line stands line
      obtain ⟨-, length, same, ends, also, enough⟩ :=
        behind (reached_endOf.mpr ⟨key, named, by omega⟩)
      cases announced.symm.trans same
      cases there.symm.trans also
      omega
    simp [partly, announced]
  · simp only [post]
    rfl

/-- Once a POST has been refused, more of it would be refused as well, if the
whole is. -/
theorem refused_later {request : Bytes} {cut later : Nat} (le : cut ≤ later)
    (refused : progress (request.take cut) = .refused) (whole : progress request = .refused) :
    progress (request.take later) = .refused := by
  obtain ⟨post, unread⟩ := progress_refused_iff.mp refused
  obtain ⟨post, named⟩ := (isPost_take request cut).mp post
  rw [expectedBodyLen_take] at unread
  have seen : Reached (endOf request contentLengthKey) cut := by
    by_contra unseen
    rw [if_neg unseen] at unread
    cases unread
  rw [progress_refused_iff, isPost_take, expectedBodyLen_take, if_pos (reached_later seen le),
    (progress_refused_iff.mp whole).2]
  exact ⟨⟨post, Nat.le_trans named le⟩, by split <;> rfl⟩

/-- The first line of a request says whether it asks for the page. -/
theorem asksForPage_take {request : Bytes} {cut : Nat} (line : Reached (endOf request crlf) cut) :
    asksForPage (request.take cut) = asksForPage request := by
  have same : ∀ start, 0x0D ∉ start → startsWith (request.take cut) start =
      startsWith request start := by
    intro start plain
    rw [Bool.eq_iff_iff]
    simp only [startsWith, List.isPrefixOf_iff_prefix, List.prefix_take_iff, and_iff_left_iff_imp]
    intro starts
    have := crlf_behind plain starts line
    omega
  rw [asksForPage, asksForPage, same _ (by decide), same _ (by decide)]

/-! ## Deliveries of texts -/

/-- What a single reaction adds. -/
def Delivery.of (answer : Reaction) : Delivery :=
  ⟨answer.stores, answer.written, answer.closedWith⟩

/-- `deliver` on the text of the buffer. -/
def reactions (session : Session) (closes : ErrT) (text : Bytes) : List Bytes → Delivery
  | [] => .nothing
  | segment :: segments =>
    let answer := reaction session closes (appended text segment)
    (Delivery.of answer).followedBy (reactions session closes answer.text segments)

theorem deliver_eq_reactions {con : TcpConnectState} (ended : con.headers.Terminated)
    (session : Session) (closes : ErrT) (segments : List Bytes) :
    deliver session closes con segments =
      reactions session closes con.headers.text segments := by
  induction segments generalizing con with
  | nil => rfl
  | cons segment segments ih =>
    have shown := recv_shows ended session segment closes
    simp only [deliver, reactions]
    rw [ih shown.terminated, shown.stores, shown.written, shown.closedWith, shown.text]
    rfl

section Segments
variable {session : Session} {closes : ErrT}

theorem reaction_waiting (waiting : progress request = .waiting) :
    reaction session closes request = ⟨[], [], none, request⟩ := by
  unfold reaction
  rw [waiting]

theorem reaction_refused (refused : progress request = .refused) :
    reaction session closes request = ⟨[], [], some (closeResult closes .val), []⟩ := by
  unfold reaction
  rw [refused]

/-- Only a refused request closes the connection, and nothing is written then. -/
theorem reaction_closed_iff {error : ErrT} :
    (reaction session closes request).closedWith = some error ↔
      progress request = .refused ∧ closeResult closes .val = error := by
  unfold reaction
  cases progress request with
  | refused => simp
  | waiting => simp
  | complete =>
    dsimp only
    split
    · simp
    · split <;> simp

theorem closeResult_val_ne_ok : closeResult closes .val ≠ .ok := by
  unfold closeResult
  split <;> simp

/-- A request that is complete is answered. -/
theorem reaction_complete_written (complete : progress request = .complete) :
    0 < (reaction session closes request).written.length := by
  have messages : 0 < badReqMsg.length ∧ 0 < successMsg.length ∧ 0 < failMsg.length := by decide
  unfold reaction
  rw [complete]
  dsimp only
  split
  · unfold configReply
    split
    · exact messages.1
    · dsimp only
      split
      · exact messages.2.1
      · exact messages.2.2
  · split
    · rw [pageReply, List.length_append, okHeader_length]
      omega
    · rw [redirect_length]
      omega

theorem reaction_post_text (post : isPost request = true) (open_ : progress request ≠ .refused) :
    (reaction session closes request).text = request := by
  unfold reaction
  cases decided : progress request with
  | refused => exact absurd decided open_
  | waiting => rfl
  | complete => simp [post]

theorem followedBy_open {first later : Delivery} (open_ : first.closedWith = none) :
    first.followedBy later =
      ⟨first.stores ++ later.stores, first.written ++ later.written, later.closedWith⟩ := by
  unfold Delivery.followedBy
  rw [open_]

/-- A delivery that starts with a reaction writes at least what that writes. -/
theorem written_followedBy (first later : Delivery) :
    first.written.length ≤ (first.followedBy later).written.length := by
  unfold Delivery.followedBy
  split
  · exact Nat.le_refl _
  · simp

/-- The segments that complete a POST either have it refused or write at least
the answer to the whole of it. -/
theorem post_goes_on (free : NulFree request) (short : request.length < tcpIpBufferSize)
    (whole : text ++ segments.flatten = request) (more : segments ≠ [])
    (post : isPost text = true) :
    (reactions session closes text segments).closedWith = some (closeResult closes .val) ∨
      (reaction session closes request).written.length ≤
        (reactions session closes text segments).written.length := by
  induction segments generalizing text with
  | nil => exact absurd rfl more
  | cons segment segments ih =>
    subst whole
    rw [List.flatten_cons, ← List.append_assoc] at free short ih ⊢
    have fits : (text ++ segment).length < tcpIpBufferSize := by
      simp only [List.length_append] at short ⊢
      omega
    have grown : appended text segment = text ++ segment :=
      appended_of_fits free.left.right (by simpa using fits)
    have still : isPost (text ++ segment) = true := by
      simp only [isPost, startsWith, List.isPrefixOf_iff_prefix] at post ⊢
      exact post.trans (List.prefix_append text segment)
    simp only [reactions, grown]
    by_cases refused : progress (text ++ segment) = .refused
    · rw [reaction_refused refused]
      exact .inl rfl
    · cases segments with
      | nil =>
        right
        rw [List.flatten_nil, List.append_nil]
        exact written_followedBy (Delivery.of _) _
      | cons next segments =>
        have open_ : (reaction session closes (text ++ segment)).closedWith = none := by
          rw [Option.eq_none_iff_forall_not_mem]
          intro error closed
          exact refused (reaction_closed_iff.mp closed).1
        rw [followedBy_open open_, reaction_post_text still refused]
        rcases ih rfl (by simp) still with closed | enough
        · exact .inl closed
        · right
          apply Nat.le_trans enough
          simp

/-- The header of a response left in the buffer, with whatever goes behind it,
is one more request that is redirected. -/
theorem header_goes_on (session : Session) (closes : ErrT)
    (header : ascii "HTTP/1.1 " <+: text) (line : strstr text crlf ≠ none)
    (segment : Bytes) (segments : List Bytes) :
    0 < (reactions session closes text (segment :: segments)).written.length := by
  have starts : ascii "HTTP/1.1 " <+: appended text segment :=
    header.trans (List.prefix_append text _)
  have complete : progress (appended text segment) = .complete := by
    have other : ¬ isPost (appended text segment) = true := by
      simp only [isPost, startsWith, List.isPrefixOf_iff_prefix]
      intro post
      have clash := List.prefix_of_prefix_length_le post starts (by decide)
      exact absurd clash (by decide)
    have still : crlf <:+: appended text segment :=
      (occurs_of_strstr line).trans (List.prefix_append text _).isInfix
    obtain ⟨position, found⟩ := Option.ne_none_iff_exists'.mp (strstr_found still)
    simp [progress, other, found]
  apply Nat.lt_of_lt_of_le (reaction_complete_written complete)
  exact written_followedBy (Delivery.of _) _

/-- What is answered without being a POST is the start of a request that is
none, up to its first line end at least. -/
theorem other_of_answered {cut : Nat} (within : cut ≤ request.length)
    (notPost : ¬ isPost (request.take cut) = true)
    (complete : progress (request.take cut) = .complete) :
    ¬ isPost request = true ∧ Reached (endOf request crlf) cut := by
  have other : ¬ isPost request = true := by
    intro post
    rw [progress_take_post post within] at complete
    have seems : SeemsWhole request cut := by
      by_contra partly
      rw [if_neg partly] at complete
      split at complete <;> cases complete
    have starts : ascii "POST " <+: request := List.isPrefixOf_iff_prefix.mp post
    have behind := crlf_behind postMethod_line starts (crlf_of_head seems.1)
    rw [postMethod_length] at behind
    exact notPost ((isPost_take request cut).mpr ⟨post, by omega⟩)
  refine ⟨other, ?_⟩
  by_contra unreached
  rw [progress_take_other other, if_neg unreached] at complete
  cases complete

theorem reaction_other (other : ¬ isPost request = true) (complete : progress request = .complete) :
    reaction session closes request =
      if asksForPage request then ⟨[], pageReply session, none, httpResponseOkHeader⟩
      else
        let redirect := httpResponseRedirectHeader session.gw
        ⟨[], redirect, none, redirect⟩ := by
  unfold reaction
  rw [complete]
  dsimp only
  rw [if_neg other]

/-- The first line of a request that is no POST decides what is written. -/
theorem reaction_written_take (session : Session) (closes : ErrT) {cut : Nat}
    (other : ¬ isPost request = true)
    (line : Reached (endOf request crlf) cut) :
    (reaction session closes (request.take cut)).written =
      (reaction session closes request).written := by
  have early : progress (request.take cut) = .complete := by
    rw [progress_take_other other, if_pos line]
  have whole : progress request = .complete := by
    obtain ⟨position, found, -⟩ := reached_endOf.mp line
    simp [progress, other, found]
  have still : ¬ isPost (request.take cut) = true := fun post =>
    other ((isPost_take request cut).mp post).1
  rw [reaction_other still early, reaction_other other whole, asksForPage_take line]

/-- The answer to a request that is no POST leaves the header of a response in
the buffer. -/
theorem header_of_reaction (session : Session) (closes : ErrT) (other : ¬ isPost request = true)
    (complete : progress request = .complete) :
    ascii "HTTP/1.1 " <+: (reaction session closes request).text ∧
      strstr (reaction session closes request).text crlf ≠ none := by
  rw [reaction_other other complete]
  split
  · have stands : ascii "HTTP/1.1 " <+: httpResponseOkHeader := by decide
    have line : strstr httpResponseOkHeader crlf ≠ none := by decide
    exact ⟨stands, line⟩
  · have found : ascii "HTTP/1.1 " <+: ascii "HTTP/1.1 302 Found" := by decide
    simp only [httpResponseRedirectHeader, List.append_assoc]
    exact ⟨found.trans (List.prefix_append _ _), strstr_found ⟨_, _, List.append_assoc _ _ _⟩⟩

/-- A request that was answered before its end is answered once more. -/
theorem answered_early (free : NulFree request) (short : request.length < tcpIpBufferSize)
    {text : Bytes} (whole : text ++ segments.flatten = request) (more : segments ≠ [])
    (complete : progress text = .complete) :
    ¬ Delivery.Same
      ((Delivery.of (reaction session closes text)).followedBy
        (reactions session closes (reaction session closes text).text segments))
      (Delivery.of (reaction session closes request)) := by
  have answer : 0 < (reaction session closes text).written.length :=
    reaction_complete_written complete
  have open_ : (reaction session closes text).closedWith = none := by
    rw [Option.eq_none_iff_forall_not_mem]
    intro error closed
    cases complete.symm.trans (reaction_closed_iff.mp closed).1
  rw [followedBy_open open_]
  rintro ⟨-, written, errors⟩
  replace written := congrArg List.length written
  simp only [Delivery.of, List.length_append] at answer written errors
  by_cases post : isPost text = true
  · have kept : progress text ≠ .refused := by simp [complete]
    rw [reaction_post_text post kept] at written errors
    rcases post_goes_on free short whole more post with closed | enough
    · -- The rest is refused, so the whole would have to be: but then nothing is written for it.
      have also := (errors _ closeResult_val_ne_ok).mp closed
      rw [reaction_refused (reaction_closed_iff.mp also).1] at written
      simp only [List.length_nil] at written
      omega
    · omega
  · have start : text = request.take text.length := by rw [← whole, List.take_left]
    have within : text.length ≤ request.length := by simp [← whole]
    rw [start] at post complete
    obtain ⟨other, line⟩ := other_of_answered within post complete
    obtain ⟨next, rest, rfl⟩ := List.exists_cons_of_ne_nil more
    have header := header_of_reaction session closes post complete
    have later := header_goes_on session closes header.1 header.2 next rest
    have same := reaction_written_take session closes other line
    rw [← start] at later same
    rw [same] at written
    omega

theorem followedBy_nothing (first : Delivery) : first.followedBy .nothing = first := by
  unfold Delivery.followedBy
  split
  · rfl
  · rename_i open_
    simp [Delivery.nothing, ← open_]

theorem cuts_bounds {start cut : Nat} (member : cut ∈ cuts start segments) :
    start ≤ cut ∧ cut ≤ start + segments.flatten.length := by
  induction segments generalizing start with
  | nil => cases member
  | cons segment segments ih =>
    cases segments with
    | nil => cases member
    | cons next segments =>
      rw [List.flatten_cons, List.length_append]
      rcases List.mem_cons.mp member with rfl | member
      · omega
      · have := ih member
        omega

/-- The rest of a request after a text that is not answered yet, against the
whole of it. -/
theorem reactions_same_iff (free : NulFree request) (short : request.length < tcpIpBufferSize)
    (whole : text ++ segments.flatten = request) (more : segments ≠ []) :
    Delivery.Same (reactions session closes text segments)
        (Delivery.of (reaction session closes request)) ↔
      ∀ cut ∈ cuts text.length segments, ¬ Breaks request cut := by
  induction segments generalizing text with
  | nil => exact absurd rfl more
  | cons segment segments ih =>
    rw [List.flatten_cons, ← List.append_assoc] at whole
    have parts : text.length + segment.length + segments.flatten.length = request.length := by
      simpa [Nat.add_assoc] using congrArg List.length whole
    have free_ : NulFree segment := by
      rw [← whole] at free
      exact free.left.right
    have grown : appended text segment = text ++ segment := appended_of_fits free_ (by omega)
    simp only [reactions, grown]
    cases segments with
    | nil =>
      have same : text ++ segment = request := by simpa using whole
      rw [same, reactions, followedBy_nothing]
      simp [cuts, Delivery.Same]
    | cons next segments =>
      have start : text ++ segment = request.take (text.length + segment.length) := by
        rw [← whole, List.take_left' (by simp)]
      have within : text.length + segment.length ≤ request.length := by omega
      have here := not_breaks_iff within
      have rest := ih whole (by simp)
      rw [← start] at here
      rw [List.length_append] at rest
      simp only [cuts, List.forall_mem_cons]
      cases decided : progress (text ++ segment) with
      | waiting =>
        have harmless : ¬ Breaks request (text.length + segment.length) :=
          here.mpr ⟨by simp [decided], by simp [decided]⟩
        rw [reaction_waiting decided, followedBy_open rfl]
        simpa [Delivery.of, harmless] using rest
      | refused =>
        rw [reaction_refused decided]
        have told : Delivery.Same ⟨[], [], some (closeResult closes .val)⟩
            (Delivery.of (reaction session closes request)) ↔ progress request = .refused := by
          constructor
          · rintro ⟨-, -, errors⟩
            exact (reaction_closed_iff.mp ((errors _ closeResult_val_ne_ok).mp rfl)).1
          · intro refused
            rw [reaction_refused refused]
            exact ⟨rfl, rfl, fun _ _ => Iff.rfl⟩
        refine told.trans ⟨fun refused => ⟨?_, ?_⟩, fun harmless => ?_⟩
        · exact here.mpr ⟨by simp [decided], fun _ => refused⟩
        · intro later member
          obtain ⟨le, inside⟩ := cuts_bounds member
          have further := refused_later le (start ▸ decided) refused
          rw [not_breaks_iff (by omega), further]
          exact ⟨by simp, fun _ => refused⟩
        · exact (here.mp harmless.1).2 decided
      | complete =>
        have breaks : ¬ ¬ Breaks request (text.length + segment.length) := by
          rw [here]
          exact fun harmless => harmless.1 decided
        exact iff_of_false (answered_early free short whole (by simp) decided)
          (fun harmless => breaks harmless.1)

end Segments

/-! ## Segments on a fresh connection -/

theorem deliver_fresh (session : Session) (closes : ErrT) (clientPcb : Pcb)
    (segments : List Bytes) :
    deliver session closes (.fresh clientPcb) segments = reactions session closes [] segments := by
  rw [deliver_eq_reactions (fresh_terminated clientPcb), fresh_text]

/-- A request of at most 8191 bytes leads to the same, in segments as in one, if
and only if none of its cuts breaks it. -/
theorem segmented_same_iff (session : Session) (closes : ErrT) (clientPcb : Pcb)
    (segments : List Bytes) (free : NulFree segments.flatten)
    (short : segments.flatten.length ≤ tcpIpBufferSize - 1) :
    Delivery.Same (deliver session closes (.fresh clientPcb) segments)
        (deliver session closes (.fresh clientPcb) [segments.flatten]) ↔
      ∀ cut ∈ cuts 0 segments, ¬ Breaks segments.flatten cut := by
  have short : segments.flatten.length < tcpIpBufferSize := Nat.lt_of_le_of_lt short (by decide)
  have one : appended [] segments.flatten = segments.flatten :=
    appended_of_fits free (by simpa using short)
  have whole : deliver session closes (.fresh clientPcb) [segments.flatten] =
      Delivery.of (reaction session closes segments.flatten) := by
    rw [deliver_fresh, reactions, one, reactions, followedBy_nothing]
  rw [whole, deliver_fresh]
  by_cases none_ : segments = []
  · subst none_
    have waiting : progress [] = .waiting := by decide
    simp [cuts, Delivery.Same, Delivery.of, reactions, Delivery.nothing, reaction_waiting waiting]
  · exact reactions_same_iff free short rfl none_

/-- A form in three segments: its method alone, its head, its body. -/
def formInSegments : List Bytes :=
  [ascii "POST", ascii " /config.html HTTP/1.1\r\nContent-Length: 11\r\n\r\n",
    ascii "ssid=MyWiFi"]

theorem segmented_same_form :
    Delivery.Same (deliver plainSession .ok (.fresh 0) formInSegments)
      (deliver plainSession .ok (.fresh 0) [formInSegments.flatten]) :=
  (segmented_same_iff plainSession .ok 0 formInSegments (by decide) (by decide)).mpr (by decide)

/-- The same form, cut inside the length of its body. -/
def formCutInLength : List Bytes :=
  [ascii "POST /config.html HTTP/1.1\r\nContent-Length: 1", ascii "1\r\n\r\nssid=MyWiFi"]

/-- A request for the page whose header comes after its first line. -/
def pageInLines : List Bytes :=
  [ascii "GET / HTTP/1.1\r\n", ascii "Host: 192.168.4.1\r\n\r\n"]

/-- Both can be sent: NUL-free, well formed, short, in segments that are not empty. -/
theorem cut_requests_valid : ∀ segments ∈ [formCutInLength, pageInLines],
    (∀ segment ∈ segments, segment ≠ []) ∧ NulFree segments.flatten ∧
      WellFormed segments.flatten ∧ segments.flatten.length ≤ tcpIpBufferSize - 1 := by
  decide +kernel

/-- The form is refused in its first segment, and stored where it comes in one.
The page is followed by a redirection where its request comes in lines. -/
theorem segmentation_matters :
    (∀ segments ∈ [formCutInLength, pageInLines],
      (∀ segment ∈ segments, segment ≠ []) ∧ NulFree segments.flatten ∧
        WellFormed segments.flatten ∧ segments.flatten.length ≤ tcpIpBufferSize - 1 ∧
        ¬ Delivery.Same (deliver plainSession .ok (.fresh 0) segments)
          (deliver plainSession .ok (.fresh 0) [segments.flatten])) ∧
      deliver plainSession .ok (.fresh 0) formCutInLength = ⟨[], [], some .val⟩ ∧
      (deliver plainSession .ok (.fresh 0) [formCutInLength.flatten]).written = successMsg ∧
      (deliver plainSession .ok (.fresh 0) pageInLines).written =
        pageReply plainSession ++ httpResponseRedirectHeader plainSession.gw ∧
      (deliver plainSession .ok (.fresh 0) [pageInLines.flatten]).written =
        pageReply plainSession := by
  have formCut : deliver plainSession .ok (.fresh 0) formCutInLength = ⟨[], [], some .val⟩ := by
    rw [deliver_fresh]
    decide +kernel
  have formWhole :
      (deliver plainSession .ok (.fresh 0) [formCutInLength.flatten]).written = successMsg := by
    rw [deliver_fresh]
    decide +kernel
  have pageCut : (deliver plainSession .ok (.fresh 0) pageInLines).written =
      pageReply plainSession ++ httpResponseRedirectHeader plainSession.gw := by
    rw [deliver_fresh]
    decide +kernel
  have pageWhole : (deliver plainSession .ok (.fresh 0) [pageInLines.flatten]).written =
      pageReply plainSession := by
    rw [deliver_fresh]
    decide +kernel
  refine ⟨?_, formCut, formWhole, pageCut, pageWhole⟩
  intro segments member
  obtain ⟨nonempty, free, formed, short⟩ := cut_requests_valid segments member
  refine ⟨nonempty, free, formed, short, ?_⟩
  rintro ⟨-, written, -⟩
  simp only [List.mem_cons, List.not_mem_nil, or_false] at member
  rcases member with rfl | rfl
  · rw [formCut, formWhole] at written
    exact absurd written (by decide)
  · rw [pageCut, pageWhole] at written
    have length := congrArg List.length written
    rw [List.length_append, redirect_length] at length
    omega

end PicowDayClock.RequestSegmentation
