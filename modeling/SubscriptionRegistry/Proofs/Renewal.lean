import SubscriptionRegistry.Proofs.Placement
import SubscriptionRegistry.Proofs.Spelling
import SubscriptionRegistry.Proofs.SubscriberHistory

/-!
# Renewals and requests

To extend a subscription and to request it again are written as two statements. On a subscription
that is stored they do the same, if the request gives the key and the topic that are stored.

* `IsKeyText.notifyKeyText_eq`: the text of a key is the text of the bytes that it spells, and of no
  others. So a key that is stored can be given again.
* `Store.Intact.renewSubscriber_of_mem`, `Store.Intact.upsertSubscriber_of_mem`: the two statements
  on a row that is stored.
* `Step.renewal_eq_request`: the two calls.
* `Script.renewal_is_request`: both at every point of a run.
-/

namespace SubscriptionRegistry

/-! ## Keys that are read back -/

namespace Text

/-- A digit in lower case is the digit of its value. -/
theorem hexDigit_of_hexValue? {c : Char} {d : Nat} (hc : isLowerHex c = true)
    (h : hexValue? c = some d) : hexDigit d = c := by
  rw [Uuid.isLowerHex_iff] at hc
  unfold hexValue? at h
  rcases hc with hc | hc
  · rw [if_pos hc] at h
    cases h
    rw [hexDigit, if_pos (by omega), show 48 + (c.toNat - 48) = c.toNat by omega, Char.ofNat_toNat]
  · rw [if_neg (by omega), if_pos hc] at h
    cases h
    rw [hexDigit, if_neg (by omega), show 87 + (c.toNat - 87) = c.toNat by omega, Char.ofNat_toNat]

/-- Bytes that are read from digits in lower case are written with these digits. -/
theorem hexDigits_of_bytes? {cs : List Char} {bytes : List UInt8}
    (hcs : ∀ c ∈ cs, isLowerHex c = true) (h : bytes? cs = some bytes) :
    (bytes.flatMap fun b => hexDigits 2 b.toNat) = cs := by
  fun_induction bytes? cs generalizing bytes with
  | case1 => cases h; rfl
  | case2 => cases h
  | case3 high low cs ih =>
    simp only [Option.bind_eq_bind, Option.bind_eq_some_iff, Option.some.injEq] at h
    obtain ⟨a, ha, b, hb, rest, hrest, rfl⟩ := h
    obtain ⟨hhigh, hlow, htail⟩ : isLowerHex high = true ∧ isLowerHex low = true ∧
        ∀ c ∈ cs, isLowerHex c = true := by
      simpa using hcs
    have ha16 := hexValue?_lt ha
    have hb16 := hexValue?_lt hb
    have hbyte : (UInt8.ofNat (16 * a + b)).toNat = 16 * a + b :=
      Nat.mod_eq_of_lt (by omega)
    have hpair : hexDigits 2 (16 * a + b) = [high, low] := by
      show [hexDigit ((16 * a + b) / 16 % 16), hexDigit ((16 * a + b) % 16)] = _
      rw [show (16 * a + b) / 16 % 16 = a by omega, show (16 * a + b) % 16 = b by omega,
        hexDigit_of_hexValue? hhigh ha, hexDigit_of_hexValue? hlow hb]
    rw [List.flatMap_cons, hbyte, hpair, ih htail hrest]
    rfl

end Text

/-- The text of a key is the text of the bytes that it spells, and of no others. -/
theorem IsKeyText.notifyKeyText_eq {bytes other : List UInt8} {text : String}
    (h : IsKeyText bytes text) : notifyKeyText other = text ↔ other = bytes := by
  constructor
  · rintro rfl
    have hdecoded := h.decoded
    rw [notifyKeyText, String.toList_ofList, Text.bytes?_hexDigits] at hdecoded
    exact Option.some.inj hdecoded
  · rintro rfl
    rw [notifyKeyText, Text.hexDigits_of_bytes? h.digits h.decoded, String.ofList_toList]

/-! ## The two statements -/

/-- The renewal of a subscription that is stored. -/
def Subscriber.renewal (x : Subscriber) (scope : Scope) (now : Option Stamp) : Operation :=
  .renewSubscriber ⟨some x.project, some x.account, scope, now⟩

/-- The request for a subscription that is stored, with the bytes of a key and the topic of its
row. -/
def Subscriber.request (x : Subscriber) (newId : Uuid) (scope : Scope) (bytes : List UInt8)
    (now : Option Stamp) : Operation :=
  .upsertSubscriber ⟨newId, some x.project, some x.account, scope, bytes, some x.topic, now⟩

namespace Store

variable {s : Store} {x : Subscriber}

/-- The store in which a subscription has been extended and has another scope. -/
def extended (s : Store) (x : Subscriber) (scope : Scope) (now expiry : Instant) : Store :=
  (s.placeSubscriber (x.renewed now expiry)).setScope x.id scope

theorem Intact.subscription?_of_mem (h : s.Intact) (hx : x ∈ s.subscribers) :
    s.subscription? (some x.project, some x.account) = some x :=
  h.keyed_subscribers.find?_eq_some.2 ⟨hx, rfl⟩

/-- A renewal finds the row that is stored and extends it. -/
theorem Intact.renewSubscriber_of_mem (h : s.Intact) (hx : x ∈ s.subscribers) (scope : Scope)
    (now expiry : Instant) :
    s.renewSubscriber (some x.project) (some x.account) scope now expiry =
      some (s.extended x scope now expiry, x.renewed now expiry) := by
  rw [h.renewSubscriber_eq, h.subscription?_of_mem hx]
  rfl

/-- A request with the key and the topic of the row that is stored finds this row and extends it. -/
theorem Intact.upsertSubscriber_of_mem (h : s.Intact) (hx : x ∈ s.subscribers) (newId : Uuid)
    (scope : Scope) (now expiry : Instant) :
    s.upsertSubscriber
        ⟨newId, some x.project, some x.account, x.symKey, some x.topic, now, expiry⟩ scope =
      .ok (s.extended x scope now expiry, x.id) := by
  rw [h.upsertSubscriber_eq, h.subscription?_of_mem hx]
  rfl

end Store

/-! ## The two calls -/

section Calls

variable {r : Registry} {i : SessionId} {op : Operation} {x : Subscriber} {bytes : List UInt8}

theorem Step.run_of_error {f : Fault} (hp : op.prepare r.clock = .error f) :
    (Step.act i (.call op)).run r =
      (.leaf (.error f.surface) [], r.withDatabase (r.database.rest i)) := by
  simp only [Step.run, Action.run, Database.call_of_error hp]
  rfl

theorem Step.run_of_locked {run : Routine}
    (hp : op.prepare r.clock = .ok (.write run)) (hl : r.database.lockedFor i = true) :
    (Step.act i (.call op)).run r =
      (.leaf (.error Fault.locked.surface) [], r.withDatabase (r.database.rest i)) := by
  simp only [Step.run, Action.run, Database.call_of_ok hp, Database.attempt, hl, if_true]
  rfl

/-- A renewal and a request fail by their times in the same way, or both run their statements. -/
theorem Subscriber.prepare_cases (x : Subscriber) (hlength : bytes.length = notifyKeyLength)
    (clock : Instant) (newId : Uuid) (scope : Scope) (now : Option Stamp) :
    (∃ f, (x.renewal scope now).prepare clock = .error f ∧
        (x.request newId scope bytes now).prepare clock = .error f) ∨
      ∃ t expiry, (x.renewal scope now).prepare clock =
          .ok (.write (Operation.renewalWrite ⟨some x.project, some x.account, scope, now⟩ t expiry)) ∧
        (x.request newId scope bytes now).prepare clock = .ok (.write (Operation.subscriberWrite
          ⟨newId, some x.project, some x.account, notifyKeyText bytes, some x.topic, t, expiry⟩
          scope)) := by
  have hlong : ¬ bytes.length ≠ notifyKeyLength := not_not_intro hlength
  cases ht : Operation.effectiveTime clock now with
  | error f => exact .inl ⟨f, bind_of_error ht _, (if_neg hlong).trans (bind_of_error ht _)⟩
  | ok t =>
    cases he : Operation.termEnd t with
    | error f =>
      exact .inl ⟨f, (bind_of_ok ht _).trans (bind_of_error he _),
        (if_neg hlong).trans ((bind_of_ok ht _).trans (bind_of_error he _))⟩
    | ok expiry =>
      exact .inr ⟨t, expiry, (bind_of_ok ht _).trans (bind_of_ok he _),
        (if_neg hlong).trans ((bind_of_ok ht _).trans (bind_of_ok he _))⟩

/-- A renewal and a request fail with the same fault, or both extend the row. In either case they
leave the same registry. -/
theorem Step.renewal_eq_request (hs : (r.database.view i).Intact)
    (hx : x ∈ (r.database.view i).subscribers) (hlength : bytes.length = notifyKeyLength)
    (hkey : notifyKeyText bytes = x.symKey) (newId : Uuid) (scope : Scope) (now : Option Stamp) :
    let renewal := (Step.act i (.call (x.renewal scope now))).run r
    let request := (Step.act i (.call (x.request newId scope bytes now))).run r
    renewal.2 = request.2 ∧
      ((∃ f, renewal.1 = .leaf (.error f) [] ∧ request.1 = .leaf (.error f) [] ∧
          Database.Restored i r.database renewal.2.database) ∨
        ∃ t expiry,
          renewal.1 = .leaf (.ok (.subscriber (x.renewed t expiry)))
              [.subscriberUpdated x.id scope.size] ∧
            request.1 = .leaf (.ok (.id x.id)) [.subscriberUpserted x.id x.project scope.size] ∧
            renewal.2.database.view i = (r.database.view i).extended x scope t expiry) := by
  intro renewal request
  have hrest : Database.Restored i r.database (r.database.rest i) :=
    (r.database.alike_rest i).restored
  rcases x.prepare_cases hlength r.clock newId scope now with
    ⟨f, hrenewal, hrequest⟩ | ⟨t, expiry, hrenewal, hrequest⟩
  · rw [show renewal = _ from Step.run_of_error hrenewal,
      show request = _ from Step.run_of_error hrequest]
    exact ⟨rfl, .inl ⟨_, rfl, rfl, hrest⟩⟩
  · cases hl : r.database.lockedFor i with
    | true =>
      rw [show renewal = _ from Step.run_of_locked hrenewal hl,
        show request = _ from Step.run_of_locked hrequest hl]
      exact ⟨rfl, .inl ⟨_, rfl, rfl, hrest⟩⟩
    | false =>
      -- Both statements leave this store, whatever new id the request has come with.
      let s := (r.database.view i).extended x scope t expiry
      have hrenew : (Write.call (x.renewal scope now)).Turns r.clock (r.database.view i) s
          ⟨.subscriber (x.renewed t expiry), [.subscriberUpdated x.id scope.size]⟩ := by
        refine ⟨_, hrenewal, ?_⟩
        rw [Operation.renewalWrite_whole, hs.renewSubscriber_of_mem hx]
        rfl
      have hreset : (Write.call (x.request newId scope bytes now)).Turns r.clock
          (r.database.view i) s
          ⟨.id x.id, [.subscriberUpserted x.id x.project scope.size]⟩ := by
        refine ⟨_, hrequest, ?_⟩
        rw [hkey, Operation.subscriberWrite_whole, hs.upsertSubscriber_of_mem hx]
        rfl
      rw [show renewal = _ from Step.run_call hl hrenew, show request = _ from Step.run_call hl hreset]
      exact ⟨rfl, .inr ⟨t, expiry, rfl, rfl, Database.view_put⟩⟩

end Calls

/-! ## Every point of a run -/

/-- **To renew a subscription is to request it again with its own key and topic.** At every point of
a run from the empty store, let a row of the subscribers be stored in what a session sees. Its key
spells 32 bytes, and is the text of these bytes and of no others, so that they are accepted as the
key of a request. For every scope, every time and every new id, a renewal of the subscription and a
request for it with these bytes and its topic leave the same registry. Either both fail with the
same fault, and everything is as it was, or both succeed: the renewal answers with the row that is
now stored for the subscription, which has the id, the first date, the key and the topic that it
had, and the request with its id. -/
theorem Script.renewal_is_request (script : Script) (clock : Instant) (n : Nat) (i : SessionId) :
    let r := script.stateAt (.start clock .empty) n
    ∀ x ∈ (r.database.view i).subscribers, ∃ bytes : List UInt8,
      bytes.length = 32 ∧ Text.bytes? x.symKey.toList = some bytes ∧
        (∀ other, notifyKeyText other = x.symKey ↔ other = bytes) ∧
        ∀ newId scope now,
          let renewal := (Step.act i (.call (x.renewal scope now))).run r
          let request := (Step.act i (.call (x.request newId scope bytes now))).run r
          renewal.2 = request.2 ∧
            ((∃ f, renewal.1 = .leaf (.error f) [] ∧ request.1 = .leaf (.error f) [] ∧
                Database.Restored i r.database renewal.2.database) ∨
              ∃ y ∈ (renewal.2.database.view i).subscribers,
                renewal.1 = .leaf (.ok (.subscriber y)) [.subscriberUpdated y.id scope.size] ∧
                  request.1 = .leaf (.ok (.id y.id)) [.subscriberUpserted y.id y.project scope.size] ∧
                  y.project = x.project ∧ y.account = x.account ∧ y.id = x.id ∧
                  y.createdAt = x.createdAt ∧ y.symKey = x.symKey ∧ y.topic = x.topic) := by
  intro r x hx
  have hs : (r.database.view i).Intact := script.intact_view clock n i
  obtain ⟨q, after, -, hkey, -⟩ := (((script.tells clock .empty n).view i).subscribersFrom x hx).key
  refine ⟨q.notifyKey, hkey.bytes_length, hkey.decoded, fun _ => hkey.notifyKeyText_eq, ?_⟩
  intro newId scope now renewal request
  obtain ⟨hsame, hfailed | ⟨t, expiry, hrenewal, hrequest, hview⟩⟩ :=
    Step.renewal_eq_request hs hx hkey.bytes_length (hkey.notifyKeyText_eq.2 rfl) newId scope now
  · exact ⟨hsame, .inl hfailed⟩
  · refine ⟨hsame, .inr ⟨x.renewed t expiry, ?_, hrenewal, hrequest, rfl, rfl, rfl, rfl, rfl, rfl⟩⟩
    rw [show renewal.2.database.view i = _ from hview]
    exact mem_place.2 (.inl rfl)

end SubscriptionRegistry
