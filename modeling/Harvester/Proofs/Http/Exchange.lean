import Harvester.Http.Network
namespace Harvester.Http

-- Whether a request goes out for an answer: it can be built, the other side is there, and it grants the tunnel that a
-- secure address needs.
def Network.carries (network : Network) (call : Call) : Bool :=
  network.reachable && call.url?.any fun url => !url.secure || network.tunnels

namespace Answer

-- What an answer is to the one who asked for an address.
def received (url : Url) : Answer → Except FetchError Reply
  | .closed => .error noAnswer
  | .reply status body whole => .ok ⟨url.render, status, bodyOf status body, whole⟩

def content (url : Url) (answer : Answer) : Except FetchError String := (answer.received url).bind Reply.success

-- The body of an answer that is complete and tells of success.
def body? : Answer → Option String
  | .reply status body true =>
    if 200 ≤ status ∧ status < 300 then some (Text.decodeBody (bodyOf status body)) else none
  | _ => none

theorem content_toOption (url : Url) (answer : Answer) : (answer.content url).toOption = answer.body? := by
  cases answer with
  | closed => rfl
  | reply status body whole =>
    by_cases good : 200 ≤ status ∧ status < 300
    · cases whole <;>
        simp [content, received, Except.bind, Reply.success, Reply.isSuccess, Reply.text, body?, good, Except.toOption]
    · cases whole <;>
        simp [content, received, Except.bind, Reply.success, Reply.isSuccess, body?, good, Except.toOption]

end Answer

theorem Reply.success_cases (reply : Reply) :
    (¬(200 ≤ reply.status ∧ reply.status < 300) ∧ reply.success = .error (.status reply.url reply.status)) ∨
    ((200 ≤ reply.status ∧ reply.status < 300) ∧
      ((reply.whole = false ∧ reply.success = .error (.transport "the body broke off")) ∨
        reply.whole = true ∧ reply.success = .ok (Text.decodeBody reply.body))) := by
  by_cases good : 200 ≤ reply.status ∧ reply.status < 300
  · cases whole : reply.whole <;> simp [Reply.success, Reply.isSuccess, Reply.text, good, whole]
  · exact .inl ⟨good, by simp [Reply.success, Reply.isSuccess, good]⟩

namespace Network

variable {network : Network} {call : Call}

theorem carries_url (carried : network.carries call) : ∃ url, call.url? = some url := by
  simp only [carries, Bool.and_eq_true, Option.any_eq_true] at carried
  obtain ⟨_, url, built, _⟩ := carried
  exact ⟨url, built⟩

-- A request that is carried is sent and uses up the next answer, where there is one.
theorem send_line (carried : network.carries call) (built : call.url? = some url) :
    network.send call =
      match network.answers with
      | [] => (.error noAnswer, { network with sent := network.sent ++ [call.request url] })
      | answer :: rest =>
        (answer.received url, { network with sent := network.sent ++ [call.request url], answers := rest }) := by
  simp only [carries, built, Option.any_some, Bool.and_eq_true, Bool.or_eq_true, Bool.not_eq_true'] at carried
  obtain ⟨reachable, granted⟩ := carried
  have tunnel : (url.secure && !network.tunnels) = false := by
    rcases granted with plain | tunnels
    · simp [plain]
    · simp [tunnels]
  simp only [send, built, reachable, tunnel, Bool.not_true, if_false, Bool.false_eq_true]
  rcases network.answers with _ | ⟨_ | _, _⟩ <;> rfl

theorem send_carried (carried : network.carries call) (built : call.url? = some url)
    (next : network.answers = answer :: rest) :
    network.send call =
      (answer.received url, { network with sent := network.sent ++ [call.request url], answers := rest }) := by
  rw [send_line carried built, next]

-- One that is not carried uses up none; at most a request for a tunnel is sent in its place.
theorem send_uncarried (uncarried : network.carries call = false) :
    ∃ e sent, network.send call = (.error e, { network with sent }) := by
  obtain ⟨reachable, tunnels, answers, sent⟩ := network
  unfold send
  cases built : call.url? with
  | none => exact ⟨_, sent, rfl⟩
  | some url =>
    cases reachable with
    | false => exact ⟨_, sent, rfl⟩
    | true =>
      have refused : (url.secure && !tunnels) = true := by
        simpa [carries, built] using uncarried
      exact ⟨.transport "no tunnel", sent ++ [⟨.connect, url.tunnel, [], none⟩], by simp [refused]⟩

-- Whatever comes of it, at most one request goes out.
theorem send_once (call : Call) (network : Network) :
    ∃ tried spare, tried.length ≤ 1 ∧
      (network.send call).2 = { network with answers := spare, sent := network.sent ++ tried } := by
  have none : network = { network with answers := network.answers, sent := network.sent ++ [] } := by
    rw [List.append_nil]
  unfold send
  split
  · exact ⟨[], network.answers, Nat.zero_le 1, none⟩
  · split
    · exact ⟨[], network.answers, Nat.zero_le 1, none⟩
    · split
      · exact ⟨[_], network.answers, Nat.le_refl 1, rfl⟩
      · simp only []
        split <;> exact ⟨[_], _, Nat.le_refl 1, rfl⟩

-- A reply is the answer that was next, to a request that went out.
theorem send_reply (replied : network.send call = (.ok reply, after)) :
    ∃ url status body whole rest, call.url? = some url ∧ network.carries call ∧
      network.answers = .reply status body whole :: rest ∧
      reply = ⟨url.render, status, bodyOf status body, whole⟩ ∧
      after = { network with sent := network.sent ++ [call.request url], answers := rest } := by
  cases carried : network.carries call with
  | false =>
    obtain ⟨e, sent, failed⟩ := send_uncarried carried
    rw [failed] at replied
    cases replied
  | true =>
    obtain ⟨url, built⟩ := carries_url carried
    rw [send_line carried built] at replied
    split at replied
    · cases replied
    · rename_i answer rest next
      obtain ⟨received, rfl⟩ := Prod.mk.inj replied
      cases answer with
      | closed => cases received
      | reply status body whole =>
        cases received
        exact ⟨url, status, body, whole, rest, built, rfl, next, rfl, rfl⟩

-- A request whose answer is read.
def ask (call : Call) (read : String → Except FetchError α) (network : Network) : Except FetchError α × Network :=
  match network.send call with
  | (.error e, after) => (.error e, after)
  | (.ok reply, after) => (reply.success.bind read, after)

theorem ask_carried (carried : network.carries call) (built : call.url? = some url)
    (next : network.answers = answer :: rest) (read : String → Except FetchError α) :
    network.ask call read = ((answer.content url).bind read,
      { network with sent := network.sent ++ [call.request url], answers := rest }) := by
  rw [ask, send_carried carried built next]
  cases answer <;> rfl

theorem ask_uncarried (uncarried : network.carries call = false) (read : String → Except FetchError α) :
    ∃ e sent, network.ask call read = (.error e, { network with sent }) := by
  obtain ⟨e, sent, failed⟩ := send_uncarried uncarried
  exact ⟨e, sent, by rw [ask, failed]⟩

end Network

theorem toOption_bind (x : Except ε α) (f : α → Except ε β) :
    (x.bind f).toOption = x.toOption.bind fun a => (f a).toOption := by
  cases x <;> rfl

end Harvester.Http
