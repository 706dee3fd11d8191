import CycleTLS.CookieJar

/-!
# What the recording jar lists

A name that is deleted leaves `seen`, but not `keys`: where it is set again it is
listed once more. A listing is as it should be (`Lists`) just where no name that
is set was revived so, and the names that are set were set in the order they
appear in (`lists_iff`).
-/

namespace CycleTLS

namespace CookieEvent

/-- Whether the cookie `n` is set. -/
def sets (n : String) (e : CookieEvent) : Bool := decide (e.name = n) && !e.deletes

/-- Where a name appears first, set or deleted. -/
def firstSeen (events : List CookieEvent) (n : String) : ℕ :=
  events.findIdx fun e => decide (e.name = n)

/-- Where a name is set first. -/
def firstSet (events : List CookieEvent) (n : String) : ℕ := events.findIdx (sets n)

/-- What is set under a name after the events: the cookie of the last event of
    the name, unless this deletes it. -/
def current (events : List CookieEvent) (n : String) : Option NetCookie :=
  (Log.latest name n events).bind kept

/-- A name is deleted after it was set. -/
def Revoked (events : List CookieEvent) (n : String) : Prop :=
  ∃ e d, [e, d].Sublist events ∧ e.sets n = true ∧ d.name = n ∧ d.deletes = true

@[simp] theorem sets_iff {n : String} {e : CookieEvent} :
    e.sets n = true ↔ e.name = n ∧ e.deletes = false := by
  simp [sets]

theorem firstSet_append {events : List CookieEvent} {n : String} (l : List CookieEvent)
    (h : ∃ e ∈ events, e.sets n = true) : firstSet (events ++ l) n = firstSet events n := by
  rw [firstSet, List.findIdx_append, if_pos (List.findIdx_lt_length.2 h), firstSet]

theorem firstSet_of_not_exists {events : List CookieEvent} {n : String}
    (h : ¬∃ e ∈ events, e.sets n = true) (l : List CookieEvent) :
    firstSet (events ++ l) n = firstSet l n + events.length := by
  rw [firstSet, List.findIdx_append, if_neg (h ∘ List.findIdx_lt_length.1), firstSet]

theorem firstSet_lt {events : List CookieEvent} {n : String} (h : ∃ e ∈ events, e.sets n = true) :
    firstSet events n < events.length :=
  List.findIdx_lt_length.2 h

theorem Revoked.append {events : List CookieEvent} {n : String} (h : Revoked events n)
    (l : List CookieEvent) : Revoked (events ++ l) n := by
  obtain ⟨e, d, hs, he, hd⟩ := h
  exact ⟨e, d, hs.trans (List.sublist_append_left _ _), he, hd⟩

theorem Revoked.of_concat {events : List CookieEvent} {e : CookieEvent} {n : String}
    (h : Revoked (events ++ [e]) n) (hlast : e.name = n → e.deletes = false) :
    Revoked events n := by
  obtain ⟨e', d, hs, he', hd, hdel⟩ := h
  obtain ⟨l₁, l₂, heq, h₁, h₂⟩ := List.sublist_append_iff.1 hs
  rcases List.sublist_singleton.1 h₂ with rfl | rfl
  · rw [List.append_nil] at heq
    exact ⟨e', d, heq ▸ h₁, he', hd, hdel⟩
  · -- the last event would be the deletion
    have hlast' : [e'] ++ [d] = l₁ ++ [e] := heq
    obtain rfl := List.singleton_inj.1 (List.append_inj' hlast' rfl).2
    exact absurd ((hlast hd).symm.trans hdel) (by decide)

/-- A name that was set and is not any more was deleted. -/
theorem revoked_of_current_eq_none {events : List CookieEvent} {n : String}
    (h : ∃ e ∈ events, e.sets n = true) (hnone : current events n = none) :
    Revoked events n := by
  obtain ⟨e, he, hset⟩ := h
  obtain ⟨hname, hkept⟩ := sets_iff.1 hset
  cases hlast : Log.latest name n events with
  | none => exact absurd hname (Log.latest_eq_none_iff.1 hlast e he)
  | some d =>
    obtain ⟨pre, post, rfl, hd, hpost⟩ := Log.latest_eq_some_iff.1 hlast
    have hdel : d.deletes = true := by
      simpa [current, hlast, kept] using hnone
    have hpre : e ∈ pre := by
      rcases List.mem_append.1 he with hpre | he
      · exact hpre
      rcases List.mem_cons.1 he with rfl | he
      · exact absurd (hkept.symm.trans hdel) (by decide)
      · exact absurd hname (hpost e he)
    refine ⟨e, d, ?_, hset, hd, hdel⟩
    exact (List.singleton_sublist.2 hpre).append (List.singleton_sublist.2 List.mem_cons_self)

end CookieEvent

open CookieEvent

/-- A listing as it should be: the cookies that are set, each once, in the order
    their names appear in. -/
structure Lists (events : List CookieEvent) (cookies : List NetCookie) : Prop where
  mem_iff : ∀ c, c ∈ cookies ↔ current events c.name = some c
  ordered : cookies.Pairwise fun c d => firstSeen events c.name < firstSeen events d.name

namespace RecordingJar

theorem setCookies_concat (j : RecordingJar) (events : List CookieEvent) (e : CookieEvent) :
    j.setCookies (events ++ [e]) = (j.setCookies events).record e := by
  rw [setCookies, List.foldl_append]
  rfl

/-- What `new` records is what the events left. -/
theorem seen_new_setCookies (events : List CookieEvent) (n : String) :
    (new.setCookies events).seen n = current events n := by
  rw [seen_setCookies, current]
  cases Log.latest CookieEvent.name n events with
  | none => rfl
  | some e => rfl

theorem current_concat (events : List CookieEvent) (e : CookieEvent) (n : String) :
    current (events ++ [e]) n = if e.name = n then e.kept else current events n := by
  rw [current, Log.latest_append, current, Log.latest, Log.latest_nil, Option.none_or]
  split_ifs <;> rfl

/-- A name is appended where it is set and was not. -/
theorem keys_record (j : RecordingJar) (e : CookieEvent) :
    (j.record e).keys =
      j.keys ++ if e.deletes = false ∧ j.seen e.name = none then [e.name] else [] := by
  rw [record]
  cases e.deletes with
  | true => simp
  | false => cases hs : j.seen e.name <;> simp

theorem keys_sublist (j : RecordingJar) (e : CookieEvent) : j.keys.Sublist (j.record e).keys := by
  rw [keys_record]
  exact List.sublist_append_left _ _

/-- The names listed are those that were set at some time. -/
theorem mem_keys_iff {events : List CookieEvent} {n : String} :
    n ∈ (new.setCookies events).keys ↔ ∃ e ∈ events, e.sets n = true := by
  induction events using List.reverseRecOn with
  | nil => simp [setCookies, new]
  | append_singleton events e ih =>
    have hsplit : (∃ e' ∈ events ++ [e], e'.sets n = true) ↔
        (∃ e' ∈ events, e'.sets n = true) ∨ e.sets n = true := by
      simp [or_and_right, exists_or]
    rw [setCookies_concat, keys_record, List.mem_append, ih, hsplit]
    refine or_congr_right' fun hnot => ?_
    rw [List.mem_ite_nil_right, List.mem_singleton, sets_iff]
    constructor
    · rintro ⟨⟨hd, -⟩, rfl⟩
      exact ⟨rfl, hd⟩
    · rintro ⟨rfl, hd⟩
      refine ⟨⟨hd, ?_⟩, rfl⟩
      -- what is recorded is listed, so it was set before
      cases hs : (new.setCookies events).seen e.name with
      | none => rfl
      | some c => exact absurd (ih.1 ((consistent_new.setCookies events) _ c hs).2) hnot

/-- A name is listed after another one that was set before it, or it was
    deleted in between. -/
theorem pairwise_keys (events : List CookieEvent) :
    (new.setCookies events).keys.Pairwise fun a b =>
      firstSet events a < firstSet events b ∨ Revoked events b := by
  induction events using List.reverseRecOn with
  | nil => exact List.Pairwise.nil
  | append_singleton events e ih =>
    have hset : ∀ n ∈ (new.setCookies events).keys,
        firstSet (events ++ [e]) n = firstSet events n := fun n hn =>
      firstSet_append [e] (mem_keys_iff.1 hn)
    have hold : (new.setCookies events).keys.Pairwise fun a b =>
        firstSet (events ++ [e]) a < firstSet (events ++ [e]) b ∨
          Revoked (events ++ [e]) b := by
      refine ih.imp_of_mem fun {a b} ha hb hab => ?_
      rw [hset a ha, hset b hb]
      exact hab.imp_right fun hr => hr.append [e]
    rw [setCookies_concat, keys_record, List.pairwise_append]
    refine ⟨hold, by split_ifs <;> simp, fun a ha b hb => ?_⟩
    obtain ⟨⟨-, hnone⟩, hb⟩ := List.mem_ite_nil_right.1 hb
    obtain rfl := List.mem_singleton.1 hb
    by_cases hmem : ∃ e' ∈ events, e'.sets e.name = true
    · -- it was set, but is not recorded any more
      have hrev : Revoked events e.name :=
        revoked_of_current_eq_none hmem ((seen_new_setCookies events _).symm.trans hnone)
      exact .inr (hrev.append [e])
    · left
      rw [hset a ha, firstSet_of_not_exists hmem]
      exact (firstSet_lt (mem_keys_iff.1 ha)).trans_le (Nat.le_add_left _ _)

/-- A name is listed before one that was set after it. -/
theorem sublist_keys_of_firstSet_lt {events : List CookieEvent} {a b : String}
    (hb : b ∈ (new.setCookies events).keys) (h : firstSet events a < firstSet events b) :
    [a, b].Sublist (new.setCookies events).keys := by
  induction events using List.reverseRecOn with
  | nil => exact absurd hb List.not_mem_nil
  | append_singleton events e ih =>
    by_cases hset : ∃ e' ∈ events, e'.sets b = true
    · -- `b` was set before, and then `a` was
      rw [firstSet_append [e] hset] at h
      have ha : ∃ e' ∈ events, e'.sets a = true := by
        by_contra hnot
        rw [firstSet_of_not_exists hnot] at h
        have := firstSet_lt hset
        omega
      rw [firstSet_append [e] ha] at h
      rw [setCookies_concat]
      exact (ih (mem_keys_iff.2 hset) h).trans (keys_sublist _ e)
    · have hnew := hb
      rw [setCookies_concat, keys_record, List.mem_append] at hnew
      have hmem := hnew.resolve_left (hset ∘ mem_keys_iff.1)
      -- `b` is set by `e`, so `a` was set before
      have hlen : firstSet (events ++ [e]) b < (events ++ [e]).length :=
        firstSet_lt (mem_keys_iff.1 hb)
      have ha : ∃ e' ∈ events, e'.sets a = true := by
        by_contra hnot
        rw [firstSet_of_not_exists hnot] at h
        rw [List.length_append, List.length_singleton] at hlen
        omega
      have hpair : [a, b] = [a] ++ [b] := rfl
      rw [setCookies_concat, keys_record, hpair]
      exact (List.singleton_sublist.2 (mem_keys_iff.2 ha)).append
        (List.singleton_sublist.2 hmem)

/-- A name that is set again after it was deleted is listed twice. -/
theorem sublist_keys_of_revoked {events : List CookieEvent} {n : String}
    (h : Revoked events n) (hset : (current events n).isSome) :
    [n, n].Sublist (new.setCookies events).keys := by
  induction events using List.reverseRecOn with
  | nil =>
    obtain ⟨e, d, hs, -⟩ := h
    exact absurd hs (by simp)
  | append_singleton events e ih =>
    rw [current_concat] at hset
    -- the last event is no deletion of `n`, so `n` was deleted before
    have hrev : Revoked events n := h.of_concat fun hname => by
      rw [if_pos hname, kept] at hset
      cases hd : e.deletes with
      | false => rfl
      | true => exact absurd hset (by simp [hd])
    rw [setCookies_concat]
    cases hcur : current events n with
    | some c => exact (ih hrev (Option.isSome_of_eq_some hcur)).trans (keys_sublist _ e)
    | none =>
      by_cases hname : e.name = n
      · subst hname
        have hkept : e.deletes = false := by
          cases hd : e.deletes with
          | false => rfl
          | true => simp [kept, hd] at hset
        obtain ⟨e', d, hs, he', -⟩ := hrev
        have hmem : e.name ∈ (new.setCookies events).keys :=
          mem_keys_iff.2 ⟨e', hs.subset List.mem_cons_self, he'⟩
        rw [keys_record, if_pos ⟨hkept, (seen_new_setCookies events _).trans hcur⟩]
        exact (List.singleton_sublist.2 hmem).append (List.Sublist.refl [e.name])
      · rw [if_neg hname, hcur] at hset
        exact absurd hset (by simp)

theorem mem_cookies_new_iff {events : List CookieEvent} {c : NetCookie} :
    c ∈ (new.setCookies events).cookies ↔ current events c.name = some c := by
  rw [(consistent_new.setCookies events).mem_cookies_iff, seen_new_setCookies]

/-- What is listed is in order if the names that are set are. -/
theorem pairwise_cookies_iff {events : List CookieEvent} {R : String → String → Prop} :
    (new.setCookies events).cookies.Pairwise (fun c d => R c.name d.name) ↔
      (new.setCookies events).keys.Pairwise fun a b =>
        (current events a).isSome → (current events b).isSome → R a b := by
  rw [cookies, List.pairwise_filterMap]
  refine ⟨fun h => h.imp fun {a b} hab ha hb => ?_, fun h => h.imp fun {a b} hab c hc d hd => ?_⟩
  · obtain ⟨c, hc⟩ := Option.isSome_iff_exists.1 ha
    obtain ⟨d, hd⟩ := Option.isSome_iff_exists.1 hb
    rw [← seen_new_setCookies] at hc hd
    have hcd := hab c hc d hd
    rwa [((consistent_new.setCookies events) a c hc).1,
      ((consistent_new.setCookies events) b d hd).1] at hcd
  · rw [((consistent_new.setCookies events) a c hc).1,
      ((consistent_new.setCookies events) b d hd).1]
    rw [seen_new_setCookies] at hc hd
    exact hab (Option.isSome_of_eq_some hc) (Option.isSome_of_eq_some hd)

end RecordingJar

/-- No name that is set was deleted after it was set. -/
def NoneRevived (events : List CookieEvent) : Prop :=
  ∀ n, (current events n).isSome → ¬Revoked events n

/-- Of two names that are set, the one that was set first appears first. -/
def SetAsSeen (events : List CookieEvent) : Prop :=
  ∀ a b, (current events a).isSome → (current events b).isSome →
    firstSet events a < firstSet events b → firstSeen events a < firstSeen events b

/-- After any calls of `SetCookies` the listing is as it should be just where no
    name is set again after it was deleted, and the names that are set were set
    in the order they appear in. -/
theorem lists_iff (calls : List (List CookieEvent)) :
    Lists calls.flatten (calls.foldl RecordingJar.setCookies RecordingJar.new).cookies ↔
      NoneRevived calls.flatten ∧ SetAsSeen calls.flatten := by
  have hjar : calls.foldl RecordingJar.setCookies RecordingJar.new =
      RecordingJar.new.setCookies calls.flatten := by
    rw [RecordingJar.setCookies, List.foldl_flatten]
    rfl
  rw [hjar]
  generalize calls.flatten = events
  constructor
  · rintro ⟨-, hord⟩
    have hkeys := (RecordingJar.pairwise_cookies_iff
      (R := fun a b => firstSeen events a < firstSeen events b)).1 hord
    refine ⟨fun n hn hrev => ?_, fun a b ha hb hab => ?_⟩
    · have htwice := RecordingJar.sublist_keys_of_revoked hrev hn
      exact absurd (hkeys.forall_sublist htwice hn hn) (lt_irrefl _)
    · obtain ⟨c, hc⟩ := Option.isSome_iff_exists.1 hb
      rw [← RecordingJar.seen_new_setCookies] at hc
      have hmem := ((RecordingJar.consistent_new.setCookies events) b c hc).2
      exact hkeys.forall_sublist (RecordingJar.sublist_keys_of_firstSet_lt hmem hab) ha hb
  · rintro ⟨hrev, hord⟩
    refine ⟨fun c => RecordingJar.mem_cookies_new_iff, ?_⟩
    refine (RecordingJar.pairwise_cookies_iff
      (R := fun a b => firstSeen events a < firstSeen events b)).2 ?_
    refine (RecordingJar.pairwise_keys events).imp fun {a b} hab ha hb => ?_
    exact hord a b ha hb (hab.resolve_right (hrev b hb))

/-- A cookie `a` with a `Max-Age`. -/
def cookieA (maxAge : Int) : CookieEvent where
  cookie := ⟨"a", "1", "", "", Time.zero, maxAge, false, false, 0⟩
  now := Time.zero

/-- A cookie that is set, deleted and set again is listed twice. -/
theorem not_forall_lists : ¬∀ calls : List (List CookieEvent),
    Lists calls.flatten (calls.foldl RecordingJar.setCookies RecordingJar.new).cookies := by
  intro h
  have htwice : ([[cookieA 0], [cookieA (-1)], [cookieA 0]].foldl RecordingJar.setCookies
      RecordingJar.new).cookies = [(cookieA 0).cookie, (cookieA 0).cookie] := by decide
  have hord := (h [[cookieA 0], [cookieA (-1)], [cookieA 0]]).ordered
  rw [htwice] at hord
  exact absurd (hord.forall_sublist (List.Sublist.refl _)) (lt_irrefl _)

end CycleTLS
