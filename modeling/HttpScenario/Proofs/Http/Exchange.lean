import HttpScenario.Http.Reply
/-!
# Exchanges

An exchange is a request that is sent and the reply to it.  `Exchanged` says what exchanges make of
a transport: it has seen their requests in order, the replies it had left are fewer by one for each,
and the k-th request has met the k-th of these replies, or what follows from the request alone if
there were not as many.  Sending one more request adds one more exchange (`Exchanged.send`).
-/

namespace HttpScenario

/-- A transport has become another one by exchanges. -/
structure Transport.Exchanged (transport : Transport) (exchanges : List (OutboundRequest × Reply))
    (now : Transport) : Prop where
  sent : now.sent = transport.sent ++ exchanges.map (·.1)
  replies : now.replies = transport.replies.drop exchanges.length
  afterwards : now.afterwards = transport.afterwards
  replied : ∀ (k : Nat) (request : OutboundRequest) (reply : Reply),
    exchanges[k]? = some (request, reply) →
    reply = transport.replies[k]?.getD (transport.afterwards request)

namespace Transport

variable (request : OutboundRequest) (transport : Transport)

theorem sent_send : (transport.send request).2.sent = transport.sent ++ [request] := by
  unfold send
  cases transport.replies <;> rfl

theorem replies_send : (transport.send request).2.replies = transport.replies.drop 1 := by
  unfold send
  cases transport.replies <;> rfl

theorem afterwards_send : (transport.send request).2.afterwards = transport.afterwards := by
  unfold send
  cases transport.replies <;> rfl

theorem reply_send :
    (transport.send request).1 = transport.replies[0]?.getD (transport.afterwards request) := by
  unfold send
  cases transport.replies <;> rfl

/-- A transport before anything is sent. -/
theorem exchanged_nil : transport.Exchanged [] transport where
  sent := by rw [List.map_nil, List.append_nil]
  replies := rfl
  afterwards := rfl
  replied := by
    intro k request reply h
    rw [List.getElem?_nil] at h
    cases h

variable {transport}

/-- A request that is sent after exchanges makes one more of them. -/
theorem Exchanged.send {exchanges : List (OutboundRequest × Reply)} {now : Transport}
    (h : transport.Exchanged exchanges now) :
    transport.Exchanged (exchanges ++ [(request, (now.send request).1)]) (now.send request).2 where
  sent := by
    rw [sent_send, h.sent, List.map_append, List.map_singleton, List.append_assoc]
  replies := by
    rw [replies_send, h.replies, List.drop_drop, List.length_append, List.length_singleton]
  afterwards := by
    rw [afterwards_send, h.afterwards]
  replied := by
    intro k other reply hk
    rcases Nat.lt_trichotomy k exchanges.length with hlt | heq | hgt
    · rw [List.getElem?_append_left hlt] at hk
      exact h.replied k other reply hk
    · -- the new exchange takes the first reply that was left
      subst heq
      rw [List.getElem?_concat_length] at hk
      obtain ⟨rfl, rfl⟩ := Prod.mk.inj (Option.some.inj hk)
      rw [reply_send, h.replies, h.afterwards, List.getElem?_drop, Nat.add_zero]
    · have hlength : (exchanges ++ [(request, (now.send request).1)]).length ≤ k := by
        rw [List.length_append, List.length_singleton]
        exact hgt
      rw [List.getElem?_eq_none hlength] at hk
      cases hk

end Transport

end HttpScenario
