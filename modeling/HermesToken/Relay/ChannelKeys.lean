import Mathlib.Order.Interval.Finset.Nat

/-!
# The keys of a channel

`GetNextEnabledKey` of `model/channel.go`. In polling mode the search for an
enabled key starts where the last call has left the index, which is kept in the
cached channel or, without the memory cache, in its row. A call takes the first
enabled one of the positions `c`, `c + 1`, … modulo the number of keys, and the
next call goes on behind it. So calls in a row search without a gap.
-/

namespace HermesToken.Relay

open List

inductive MultiKeyMode where
  | random | polling | other

/-- A key without a status is enabled. -/
structure ChannelInfo where
  isMultiKey : Bool := true
  multiKeyMode : MultiKeyMode := .polling
  multiKeyStatusList : ℕ → Option Int := fun _ => none
  multiKeyPollingIndex : Int := 0

/-- A channel; `keys` is the answer of `GetKeys`. -/
structure Channel where
  key : String := ""
  keys : List String
  info : ChannelInfo := {}

namespace Channel

variable (channel : Channel)

/-- `ChannelStatusEnabled` is 1. -/
def enabled (idx : ℕ) : Bool := (channel.info.multiKeyStatusList idx).getD 1 = 1

/-- The first enabled position from `start` on. -/
def poll (start : ℕ) : Option ℕ :=
  ((range channel.keys.length).map fun i => (start + i) % channel.keys.length).find? channel.enabled

def pollingStart (index : Int) : ℕ :=
  if index < 0 ∨ channel.keys.length ≤ index then 0 else index.toNat

def answer (idx : ℕ) : Except String (String × ℕ) := .ok (channel.keys.getD idx "", idx)

def withIndex (index : Int) : Channel := { channel with info.multiKeyPollingIndex := index }

/-- `channelInfo` is the answer of `CacheGetChannelInfo`. -/
def getNextEnabledKey (channelInfo : Except String ChannelInfo) (draw : ℕ) :
    Except String (String × ℕ) × Channel :=
  if !channel.info.isMultiKey then (.ok (channel.key, 0), channel)
  else if channel.keys = [] then (.error "no keys available", channel)
  else match (range channel.keys.length).filter channel.enabled with
  | [] => (.error "no enabled keys", channel)
  | first :: rest =>
    match channel.info.multiKeyMode with
    | .random =>
      (channel.answer ((first :: rest).getD (draw % (rest.length + 1)) first), channel)
    | .polling =>
      match channelInfo with
      | .error e => (.error e, channel)
      | .ok info =>
        match channel.poll (channel.pollingStart info.multiKeyPollingIndex) with
        | some idx =>
          (channel.answer idx, channel.withIndex ((idx + 1) % channel.keys.length : ℕ))
        | none => (channel.answer first, channel)
    | .other => (channel.answer first, channel)

end Channel

structure ChannelStore where
  memoryCacheEnabled : Bool
  (cached row : Channel)

namespace ChannelStore

def channel (s : ChannelStore) : Channel := if s.memoryCacheEnabled then s.cached else s.row

/-- A call works on the cached channel itself, or on a copy of the row, which it
saves. -/
def call (s : ChannelStore) (draw : ℕ) : Except String (String × ℕ) × ChannelStore :=
  let (answer, channel) := s.channel.getNextEnabledKey (.ok s.channel.info) draw
  (answer, if s.memoryCacheEnabled then { s with cached := channel } else { s with row := channel })

/-- The answers of one call after the other. -/
def calls (s : ChannelStore) : List ℕ → List (Except String (String × ℕ))
  | [] => []
  | draw :: draws => (s.call draw).1 :: (s.call draw).2.calls draws

end ChannelStore

/-! ## One search -/

namespace Channel

variable {channel : Channel}

theorem poll_mod (c : ℕ) : channel.poll (c % channel.keys.length) = channel.poll c := by
  simp [poll, Nat.mod_add_mod]

theorem poll_pollingStart (hpos : channel.keys.length ≠ 0) :
    channel.poll (channel.pollingStart (c % channel.keys.length : ℕ)) = channel.poll c := by
  have hlt := Nat.mod_lt c (Nat.pos_of_ne_zero hpos)
  rw [pollingStart, if_neg (by omega), Int.toNat_natCast, poll_mod]

theorem poll_of_enabled (hpos : channel.keys.length ≠ 0)
    (hc : channel.enabled (c % channel.keys.length)) :
    channel.poll c = some (c % channel.keys.length) := by
  obtain ⟨n, hn⟩ := Nat.exists_eq_succ_of_ne_zero hpos
  rw [hn] at hc
  rw [poll, hn, range_succ_eq_map, map_cons, Nat.add_zero, find?_cons_of_pos hc]

/-- A position that is not enabled may as well be the last one. -/
theorem poll_of_not_enabled (hpos : channel.keys.length ≠ 0)
    (hc : ¬ channel.enabled (c % channel.keys.length)) :
    channel.poll c = channel.poll (c + 1) := by
  obtain ⟨n, hn⟩ := Nat.exists_eq_succ_of_ne_zero hpos
  have hlast : (c + 1 + n) % (n + 1) = c % (n + 1) := by
    rw [Nat.add_right_comm, Nat.add_assoc, Nat.add_mod_right]
  rw [hn] at hc
  rw [poll, poll, hn, range_succ_eq_map, map_cons, Nat.add_zero, find?_cons_of_neg hc,
    ← range_succ_eq_map, range_succ, map_append, find?_append, map_singleton, hlast,
    find?_singleton, if_neg hc, Option.or_none, map_map]
  simp [Function.comp_def, Nat.add_assoc, Nat.add_comm 1]

theorem getNextEnabledKey_polling (channel : Channel) (hmulti : channel.info.isMultiKey)
    (hmode : channel.info.multiKeyMode = .polling) (draw : ℕ)
    (hpoll : channel.poll (channel.pollingStart channel.info.multiKeyPollingIndex) = some idx) :
    channel.getNextEnabledKey (.ok channel.info) draw =
      (channel.answer idx, channel.withIndex ((idx + 1) % channel.keys.length : ℕ)) := by
  obtain ⟨i, hi, rfl⟩ := mem_map.mp (mem_of_find?_eq_some hpoll)
  have hpos : channel.keys ≠ [] := fun hnil => by simp [hnil] at hi
  have hone := mem_filter.mpr ⟨mem_range.mpr (Nat.mod_lt _ (length_pos_iff.mpr hpos)),
    find?_some hpoll⟩
  obtain ⟨first, rest, hfilter⟩ := exists_cons_of_ne_nil (ne_nil_of_mem hone)
  simp [getNextEnabledKey, hmulti, hmode, hpos, hfilter, hpoll]

end Channel

/-! ## Rounds -/

/-- The enabled ones of `len` positions from `c` on. -/
def Channel.positions (channel : Channel) (c len : ℕ) : List ℕ :=
  ((range' c len).map (· % channel.keys.length)).filter channel.enabled

/-- `n` positions in a row are all of them. -/
theorem Channel.positions_perm (channel : Channel) (c : ℕ) :
    channel.positions c channel.keys.length ~
      (range channel.keys.length).filter channel.enabled := by
  refine Perm.filter _ (Multiset.coe_eq_coe.mp ?_)
  have hmod := Nat.multiset_Ico_map_mod c channel.keys.length
  rw [Multiset.Ico, Nat.Ico_eq_range', Nat.add_sub_cancel_left] at hmod
  exact hmod

namespace ChannelStore

theorem call_channel (s : ChannelStore) (draw : ℕ) : ((s.call draw).1, (s.call draw).2.channel) =
    s.channel.getNextEnabledKey (.ok s.channel.info) draw := by
  cases hmem : s.memoryCacheEnabled <;> simp [call, channel, hmem]

/-- A call changes nothing but the index. -/
theorem call_at (s : ChannelStore) (draw : ℕ) :
    ∃ index, (s.call draw).2.channel = s.channel.withIndex index := by
  have hcall := congrArg Prod.snd (s.call_channel draw)
  rw [Channel.getNextEnabledKey] at hcall
  dsimp only at hcall
  rw [hcall]
  repeat' split
  all_goals exact ⟨_, rfl⟩

variable {channel : Channel} (hmulti : channel.info.isMultiKey)
  (hmode : channel.info.multiKeyMode = .polling) {s : ChannelStore}
  (hs : s.channel = channel.withIndex index)
include hmulti hmode hs

theorem calls_positions (hlen : len ≤ channel.keys.length)
    (hnext : channel.poll (channel.pollingStart index) = channel.poll c)
    (hdraws : draws.length = (channel.positions c len).length) :
    s.calls draws = (channel.positions c len).map channel.answer := by
  rw [Channel.positions] at hdraws ⊢
  -- on the positions that are left: an enabled one is the next answer, and the
  -- search goes past any other without a call
  induction len generalizing s index c draws with
  | zero =>
    obtain rfl := length_eq_zero_iff.mp hdraws
    rfl
  | succ len ih =>
    have hpos : channel.keys.length ≠ 0 := by omega
    rw [range'_succ, map_cons] at hdraws ⊢
    by_cases hc : channel.enabled (c % channel.keys.length)
    · rw [filter_cons_of_pos hc] at hdraws ⊢
      obtain ⟨draw, draws, rfl⟩ := exists_cons_of_length_eq_add_one hdraws
      have hcall := s.call_channel draw
      rw [hs, (channel.withIndex index).getNextEnabledKey_polling hmulti hmode draw
        (hnext.trans (Channel.poll_of_enabled hpos hc))] at hcall
      obtain ⟨hanswer, hs'⟩ := Prod.mk.inj hcall
      rw [calls, hanswer, map_cons]
      refine congrArg _ (ih hs' (by omega) ?_ (Nat.succ.inj hdraws))
      refine (Channel.poll_pollingStart hpos).trans ?_
      rw [← Channel.poll_mod, Nat.mod_add_mod, Channel.poll_mod]
    · rw [filter_cons_of_neg hc] at hdraws ⊢
      exact ih hs (by omega) (hnext.trans (Channel.poll_of_not_enabled hpos hc)) hdraws

end ChannelStore

/-- **Polling is fair**: as many calls in a row as there are enabled keys return
each of them once. -/
theorem polling_fair {s : ChannelStore} (hmulti : s.channel.info.isMultiKey)
    (hmode : s.channel.info.multiKeyMode = .polling) {earlier draws : List ℕ}
    (hdraws : draws.length = ((range s.channel.keys.length).filter s.channel.enabled).length) :
    ∃ order, order ~ (range s.channel.keys.length).filter s.channel.enabled ∧
      (s.calls (earlier ++ draws)).drop earlier.length = order.map s.channel.answer := by
  induction earlier generalizing s with
  | nil =>
    have hperm := s.channel.positions_perm
      (s.channel.pollingStart s.channel.info.multiKeyPollingIndex)
    exact ⟨_, hperm, s.calls_positions hmulti hmode rfl le_rfl rfl
      (hdraws.trans hperm.length_eq.symm)⟩
  | cons draw earlier ih =>
    obtain ⟨index, hs⟩ := s.call_at draw
    have hrest := @ih (s.call draw).2
    rw [hs] at hrest
    exact hrest hmulti hmode hdraws

/-- Three keys, of which the second is disabled. -/
def sampleKeys : ChannelStore where
  memoryCacheEnabled := false
  cached.keys := []
  row.keys := ["a", "b", "c"]
  row.info.multiKeyStatusList i := if i = 1 then some 2 else none

theorem polling_fair_sample :
    ∃ order, order ~ [0, 2] ∧ (sampleKeys.calls [0, 0, 0]).drop 1 =
      order.map sampleKeys.channel.answer :=
  @polling_fair sampleKeys rfl rfl [0] [0, 0] rfl

/-! ## Every mode -/

theorem Channel.getNextEnabledKey_enabled (channel : Channel) (hmulti : channel.info.isMultiKey)
    (hon : (range channel.keys.length).filter channel.enabled = on) (draw : ℕ) :
    let answer := (channel.getNextEnabledKey (.ok channel.info) draw).1
    answer ∈ on.map channel.answer ∨ on = [] ∧ ∃ e, answer = .error e := by
  simp only [getNextEnabledKey, hmulti, hon, Bool.not_true, Bool.false_eq_true, if_false]
  split
  · rename_i hnil
    exact .inr ⟨by simpa [hnil] using hon.symm, _, rfl⟩
  rename_i hkeys
  cases on with
  | nil => exact .inr ⟨rfl, _, rfl⟩
  | cons first rest =>
  refine .inl ?_
  cases channel.info.multiKeyMode with
  | random =>
    have hlt : draw % (rest.length + 1) < (first :: rest).length := Nat.mod_lt _ (Nat.succ_pos _)
    refine mem_map_of_mem ?_
    rw [getD_eq_getElem?_getD, getElem?_eq_getElem hlt]
    exact getElem_mem hlt
  | other => exact mem_cons_self
  | polling =>
    cases hpoll : channel.poll (channel.pollingStart channel.info.multiKeyPollingIndex) with
    | none => exact mem_cons_self
    | some idx =>
      obtain ⟨i, -, rfl⟩ := mem_map.mp (mem_of_find?_eq_some hpoll)
      exact mem_map_of_mem (hon ▸ mem_filter.mpr
        ⟨mem_range.mpr (Nat.mod_lt _ (length_pos_iff.mpr hkeys)), find?_some hpoll⟩)

/-- In every mode, calls return enabled keys, and fail if there are none. -/
theorem calls_enabled {s : ChannelStore} (hmulti : s.channel.info.isMultiKey) (draws : List ℕ) :
    let on := (range s.channel.keys.length).filter s.channel.enabled
    ∀ answer ∈ s.calls draws,
      answer ∈ on.map s.channel.answer ∨ on = [] ∧ ∃ e, answer = .error e := by
  intro on answer hanswer
  induction draws generalizing s with
  | nil => cases hanswer
  | cons draw draws ih =>
    rcases mem_cons.mp hanswer with rfl | hlater
    · rw [congrArg Prod.fst (s.call_channel draw)]
      exact s.channel.getNextEnabledKey_enabled hmulti rfl draw
    · obtain ⟨index, hs⟩ := s.call_at draw
      have hrest := @ih (s.call draw).2
      rw [hs] at hrest
      exact hrest hmulti hlater

theorem calls_enabled_sample :
    sampleKeys.channel.info.isMultiKey ∧ ∀ answer ∈ sampleKeys.calls [0, 0, 0],
      answer ∈ [0, 2].map sampleKeys.channel.answer ∨ [0, 2] = [] ∧ ∃ e, answer = .error e :=
  ⟨rfl, calls_enabled rfl _⟩

end HermesToken.Relay
