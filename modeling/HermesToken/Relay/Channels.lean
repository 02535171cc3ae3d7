import Mathlib.Algebra.GroupWithZero.Nat
import Mathlib.Data.List.Basic

/-!
# The channels of a request

`CacheGetRandomSatisfiedChannel` of `service/channel_select.go` and the search
through the priorities of a group in `model/channel_cache.go`. A channel is its
id. What a call finds in the cache and which candidate the weighted draw takes
may differ from call to call, so both are given with the call.
-/

namespace HermesToken.Relay

open List

variable {excluded : List Nat}

/-- The channels for a group and a model, in buckets of falling priority, the
weights of the channels and the number that `rand` gives. -/
structure ChannelCache where
  getSatisfiedChannelBuckets : String → String → Except String (List (List Nat))
  getWeight : Nat → Nat := fun _ => 0
  random : Nat := 0

/-- The loop of `pickWeightedChannel`: a channel takes its share off the random
weight. -/
def walkWeights (share : Nat → Nat) : List Nat → Nat → Except String Nat
  | [], _ => .error "channel not found"
  | channel :: rest, randomWeight =>
    if randomWeight < share channel then .ok channel
    else walkWeights share rest (randomWeight - share channel)

namespace ChannelCache

variable (cache : ChannelCache)

/-- `smoothingFactor` and `smoothingAdjustment`. -/
def smoothing (channels : List Nat) : Nat × Nat :=
  let sumWeight := (channels.map cache.getWeight).sum
  if sumWeight = 0 then (1, 100) else if sumWeight / channels.length < 10 then (100, 0) else (1, 0)

def share (channels : List Nat) (channel : Nat) : Nat :=
  cache.getWeight channel * (cache.smoothing channels).1 + (cache.smoothing channels).2

def pickWeightedChannel : List Nat → Except String Nat
  | [] => .error "channel not found"
  | [channel] => .ok channel
  | channels =>
    let sumWeight := (channels.map cache.getWeight).sum
    let sumWeight := if sumWeight = 0 then channels.length * 100 else sumWeight
    walkWeights (cache.share channels) channels
      (cache.random % (sumWeight * (cache.smoothing channels).1))

/-- The loop of `GetNextSatisfiedChannel` from the bucket `idx` on. -/
def nextInBuckets (excluded : List Nat) :
    List (List Nat) → Nat → Except String (Option Nat × Nat)
  | [], idx => .ok (none, idx)
  | bucket :: rest, idx =>
    match bucket.filter (· ∉ excluded) with
    | [] => nextInBuckets excluded rest (idx + 1)
    | candidates => do
      let channel ← cache.pickWeightedChannel candidates
      return (some channel, idx)

/-- `GetNextSatisfiedChannel`, with the index of the bucket it stopped at. -/
def getNextSatisfiedChannel (group model : String) (priorityIndex : Nat) (excluded : List Nat) :
    Except String (Option Nat × Nat) := do
  let buckets ← cache.getSatisfiedChannelBuckets group model
  cache.nextInBuckets excluded (buckets.drop priorityIndex) priorityIndex

def Serves (group model : String) (channel : Nat) : Prop :=
  ∃ buckets, cache.getSatisfiedChannelBuckets group model = .ok buckets ∧
    ∃ bucket ∈ buckets, channel ∈ bucket

end ChannelCache

/-- The counters of `RetryParam`, and the path of the request. -/
structure RetryParam where
  requestPath : String := ""
  retry : Nat := 0
  resetNextTry : Bool := false
  priorityIndex : Nat := 0
  triedChannels : List Nat := []

/-- `IncreaseRetry`. -/
def RetryParam.increaseRetry (param : RetryParam) : RetryParam :=
  if param.resetNextTry then { param with resetNextTry := false }
  else { param with retry := param.retry + 1 }

theorem RetryParam.increaseRetry_tried (param : RetryParam) :
    param.increaseRetry.triedChannels = param.triedChannels := by
  rw [increaseRetry]
  split
  · rfl
  · rfl

/-- `SeedSelectedChannel`: the channel was tried by another route. -/
def RetryParam.seedSelectedChannel (param : RetryParam) (cache : ChannelCache)
    (group model : String) (channelId : Nat) : Except String RetryParam :=
  if channelId = 0 || group = "" then .ok param
  else do
    let buckets ← cache.getSatisfiedChannelBuckets group model
    return { param with
      triedChannels := channelId :: param.triedChannels
      priorityIndex := (buckets.findIdx? (channelId ∈ ·)).getD param.priorityIndex }

/-- What the selection keeps in the context of the request. -/
structure GroupContext where
  autoGroup : Option String := none
  autoGroupIndex : Option Nat := none

/-- What the selection reads of the settings and the token. -/
structure SelectSettings where
  retryTimes : Int
  (autoGroups userAutoGroups : List String)
  crossGroupRetry : Bool

/-- A request, as the selection sees it. -/
structure Selecting where
  context : GroupContext
  param : RetryParam

/-- The answer of `CacheGetRandomSatisfiedChannel`: the channel or an error, and
the group it names. -/
abbrev Selected := Except String (Option Nat) × String

namespace SelectSettings

variable (settings : SelectSettings) (model : String) (cache : ChannelCache)

/-- The loop over the auto groups, which starts at the index `start`. -/
def selectAutoGroup (start : Nat) : List String → Nat → Selecting → Selected × Selecting
  | [], _, st => ((.ok none, "auto"), st)
  | autoGroup :: rest, i, st =>
    -- a later group starts at its first priority
    let param := if start < i then { st.param with priorityIndex := 0 } else st.param
    match cache.getNextSatisfiedChannel autoGroup model param.priorityIndex
      param.triedChannels with
    | .error e => ((.error e, autoGroup), ⟨st.context, param⟩)
    | .ok (none, _) =>
      selectAutoGroup start rest (i + 1)
        ⟨{ st.context with autoGroupIndex := some (i + 1) },
          { param with retry := 0, priorityIndex := 0 }⟩
    | .ok (some channel, priorityIndex) =>
      let triedChannels := channel :: param.triedChannels
      if settings.crossGroupRetry && settings.retryTimes ≤ param.retry then
        ((.ok (some channel), autoGroup),
          ⟨{ autoGroup := some autoGroup, autoGroupIndex := some (i + 1) },
            { param with retry := 0, resetNextTry := true, priorityIndex := 0, triedChannels }⟩)
      else
        ((.ok (some channel), autoGroup),
          ⟨{ autoGroup := some autoGroup, autoGroupIndex := some i },
            { param with priorityIndex, triedChannels }⟩)

/-- `CacheGetRandomSatisfiedChannel`. -/
def cacheGetRandomSatisfiedChannel (tokenGroup : String) (st : Selecting) :
    Selected × Selecting :=
  if tokenGroup = "auto" then
    if settings.autoGroups = [] then ((.error "auto groups is not enabled", tokenGroup), st)
    else
      let start := st.context.autoGroupIndex.getD 0
      settings.selectAutoGroup model cache start (settings.userAutoGroups.drop start) start st
  else
    match cache.getNextSatisfiedChannel tokenGroup model st.param.priorityIndex
      st.param.triedChannels with
    | .error e => ((.error e, tokenGroup), st)
    | .ok (channel, priorityIndex) =>
      let triedChannels := channel.toList ++ st.param.triedChannels
      ((.ok channel, tokenGroup),
        ⟨st.context, { st.param with priorityIndex, triedChannels }⟩)

end SelectSettings

/-! ## The weighted draw -/

theorem walkWeights_ok {share : Nat → Nat} {channels : List Nat} {r : Nat}
    (h : r < (channels.map share).sum) :
    ∃ channel ∈ channels, 0 < share channel ∧ walkWeights share channels r = .ok channel := by
  induction channels generalizing r with
  | nil => cases h
  | cons first rest ih =>
    rw [walkWeights]
    split
    · exact ⟨first, mem_cons_self, by omega, rfl⟩
    · rw [map_cons, sum_cons] at h
      obtain ⟨channel, hmem, hpos, hwalk⟩ := ih (r := r - share first) (by omega)
      exact ⟨channel, mem_cons_of_mem _ hmem, hpos, hwalk⟩

theorem walkWeights_reaches {share : Nat → Nat} {channels : List Nat} {channel : Nat}
    (hmem : channel ∈ channels) (hpos : 0 < share channel) :
    ∃ r < (channels.map share).sum, walkWeights share channels r = .ok channel := by
  induction channels with
  | nil => cases hmem
  | cons first rest ih =>
    rw [map_cons, sum_cons]
    by_cases heq : first = channel
    · rw [heq]
      exact ⟨0, by omega, by rw [walkWeights, if_pos hpos]⟩
    · obtain ⟨r, hlt, hwalk⟩ := ih ((mem_cons.mp hmem).resolve_left (Ne.symm heq))
      refine ⟨share first + r, by omega, ?_⟩
      rw [walkWeights, if_neg (by omega), Nat.add_sub_cancel_left, hwalk]

namespace ChannelCache

/-- `rand` is called with the sum of the shares. -/
theorem sum_share (cache : ChannelCache) (channels : List Nat) :
    (channels.map (cache.share channels)).sum =
      (if (channels.map cache.getWeight).sum = 0 then channels.length * 100
        else (channels.map cache.getWeight).sum) * (cache.smoothing channels).1 := by
  have hsum : ∀ (f a : Nat) (l : List Nat), (l.map fun c => cache.getWeight c * f + a).sum =
      (l.map cache.getWeight).sum * f + l.length * a := by
    intro f a l
    induction l with
    | nil => simp
    | cons _ _ ih => simp only [map_cons, sum_cons, length_cons, ih, Nat.add_mul]; omega
  unfold share
  rw [hsum]
  grind [smoothing]

/-- The draw from `channels` may give `channel`: one of several without a weight
is only taken when none has one. -/
def Draws (cache : ChannelCache) (channels : List Nat) (channel : Nat) : Prop :=
  channel ∈ channels ∧ (channels.length = 1 ∨ 0 < cache.share channels channel)

theorem pick_draws (cache : ChannelCache) (h : channels ≠ []) :
    ∃ channel, cache.pickWeightedChannel channels = .ok channel ∧ cache.Draws channels channel := by
  match channels with
  | [channel] => exact ⟨channel, rfl, mem_cons_self, .inl rfl⟩
  | first :: second :: rest =>
    have hpos :
        0 < ((first :: second :: rest).map (cache.share (first :: second :: rest))).sum := by
      rw [sum_share]
      grind [smoothing]
    obtain ⟨channel, hmem, hshare, hwalk⟩ := walkWeights_ok (Nat.mod_lt cache.random hpos)
    rw [sum_share] at hwalk
    exact ⟨channel, hwalk, hmem, .inr hshare⟩

theorem draws_picked (cache : ChannelCache) (h : cache.Draws channels channel) :
    ∃ random, { cache with random }.pickWeightedChannel channels = .ok channel := by
  obtain ⟨hmem, hshare⟩ := h
  match channels with
  | [only] => exact ⟨0, by rw [mem_singleton.mp hmem]; rfl⟩
  | first :: second :: rest =>
    obtain ⟨random, hlt, hwalk⟩ := walkWeights_reaches hmem (hshare.resolve_left (by simp))
    rw [sum_share] at hlt
    refine ⟨random, Eq.trans ?_ hwalk⟩
    exact congrArg (walkWeights _ _) (Nat.mod_eq_of_lt hlt)

end ChannelCache

/-! ## What is selected -/

variable {settings : SelectSettings} {model : String} {cache : ChannelCache}

/-- The channels of each bucket that are not excluded. -/
def untried (excluded : List Nat) (buckets : List (List Nat)) : List (List Nat) :=
  buckets.map fun bucket => bucket.filter (· ∉ excluded)

theorem untried_flatten (excluded : List Nat) (buckets : List (List Nat)) :
    (untried excluded buckets).flatten = buckets.flatten.filter (· ∉ excluded) :=
  filter_flatten.symm

/-- The candidates of the first bucket that has some. -/
def firstOffer : List (List Nat) → List Nat
  | [] => []
  | [] :: rest => firstOffer rest
  | bucket :: _ => bucket

theorem firstOffer_append (offers offers' : List (List Nat)) :
    firstOffer (offers ++ offers') =
      if offers.flatten = [] then firstOffer offers' else firstOffer offers := by
  induction offers with
  | nil => simp
  | cons bucket _ ih => cases bucket <;> simp [firstOffer, ih]

theorem firstOffer_eq_nil {offers : List (List Nat)} :
    firstOffer offers = [] ↔ offers.flatten = [] := by
  induction offers with
  | nil => simp [firstOffer]
  | cons bucket _ ih => cases bucket <;> simp [firstOffer, ih]

theorem mem_firstOffer {offers : List (List Nat)} (h : channel ∈ firstOffer offers) :
    channel ∈ offers.flatten := by
  induction offers with
  | nil => cases h
  | cons bucket _ ih =>
    cases bucket with
    | nil => exact ih h
    | cons => exact mem_append_left _ h

/-- The search takes its candidate from the first bucket that has one. What it
passes has been tried. -/
theorem ChannelCache.nextInBuckets_eq (excluded : List Nat) (buckets : List (List Nat))
    (idx : Nat) :
    ∃ k, cache.nextInBuckets excluded buckets idx =
        .ok ((cache.pickWeightedChannel (firstOffer (untried excluded buckets))).toOption,
          idx + k) ∧
      (untried excluded (buckets.drop k)).flatten = (untried excluded buckets).flatten := by
  induction buckets generalizing idx with
  | nil => exact ⟨0, rfl, rfl⟩
  | cons bucket rest ih =>
    rw [untried, map_cons, nextInBuckets]
    cases hnew : bucket.filter (· ∉ excluded) with
    | nil =>
      obtain ⟨k, hnext, hleft⟩ := ih (idx + 1)
      refine ⟨k + 1, ?_, hleft⟩
      rw [← Nat.add_assoc, Nat.add_right_comm]
      exact hnext
    | cons candidate candidates =>
      obtain ⟨channel, hpick, -⟩ := cache.pick_draws (cons_ne_nil candidate candidates)
      refine ⟨0, ?_, ?_⟩
      · simp only [firstOffer, hpick]
        rfl
      · rw [drop_zero, untried, map_cons, hnew]

theorem ChannelCache.getNextSatisfiedChannel_eq (cache : ChannelCache)
    (h : cache.getSatisfiedChannelBuckets group model = .ok buckets) (excluded : List Nat)
    (priorityIndex : Nat) :
    ∃ k, cache.getNextSatisfiedChannel group model priorityIndex excluded =
        .ok ((cache.pickWeightedChannel
          (firstOffer (untried excluded (buckets.drop priorityIndex)))).toOption,
          priorityIndex + k) ∧
      (untried excluded (buckets.drop (priorityIndex + k))).flatten =
        (untried excluded (buckets.drop priorityIndex)).flatten := by
  obtain ⟨k, hnext, hleft⟩ :=
    cache.nextInBuckets_eq excluded (buckets.drop priorityIndex) priorityIndex
  rw [drop_drop] at hleft
  refine ⟨k, ?_, hleft⟩
  rw [getNextSatisfiedChannel, h]
  exact hnext

theorem ChannelCache.getNextSatisfiedChannel_serves
    (h : cache.getNextSatisfiedChannel group model priorityIndex excluded =
      .ok (some channel, idx)) : channel ∉ excluded ∧ cache.Serves group model channel := by
  cases hbuckets : cache.getSatisfiedChannelBuckets group model with
  | error => rw [getNextSatisfiedChannel, hbuckets] at h; cases h
  | ok buckets =>
    obtain ⟨k, hnext, -⟩ := cache.getNextSatisfiedChannel_eq hbuckets excluded priorityIndex
    obtain ⟨hpick, -⟩ := Prod.mk.inj (Except.ok.inj (hnext.symm.trans h))
    have hne : firstOffer (untried excluded (buckets.drop priorityIndex)) ≠ [] := by
      intro hnil
      rw [hnil] at hpick
      cases hpick
    obtain ⟨found, hfound, hdraw⟩ := cache.pick_draws hne
    rw [hfound] at hpick
    obtain rfl := Option.some.inj hpick
    obtain ⟨_, hbucket, hmem⟩ := mem_flatten.mp (mem_firstOffer hdraw.1)
    obtain ⟨bucket, hbucket', rfl⟩ := mem_map.mp hbucket
    obtain ⟨hmem, hnew⟩ := mem_filter.mp hmem
    exact ⟨of_decide_eq_true hnew, buckets, hbuckets, bucket, mem_of_mem_drop hbucket', hmem⟩

/-- `channel` serves `group` and was not tried before, but is from now on. -/
structure Takes (cache : ChannelCache) (model group : String) (channel : Nat)
    (st st' : Selecting) : Prop where
  serves : cache.Serves group model channel
  untried : channel ∉ st.param.triedChannels
  tried : st'.param.triedChannels = channel :: st.param.triedChannels

/-- The group that is named with a selected channel is the auto group of the
context from then on. -/
theorem SelectSettings.selectAutoGroup_group (start : Nat) :
    ∀ (groups : List String) (i : Nat) (st : Selecting) {channel : Nat} {group : String}
      {st' : Selecting},
      settings.selectAutoGroup model cache start groups i st = ((.ok (some channel), group), st') →
      st'.context.autoGroup = some group ∧ group ∈ groups ∧ Takes cache model group channel st st'
  | [], _, _, _, _, _, h => by cases h
  | autoGroup :: rest, i, st, channel, group, st', h => by
    rw [selectAutoGroup] at h
    have htried : (if start < i then { st.param with priorityIndex := 0 }
        else st.param).triedChannels = st.param.triedChannels := by
      split
      · rfl
      · rfl
    generalize (if start < i then { st.param with priorityIndex := 0 } else st.param) = param
      at h htried
    dsimp only at h
    split at h
    · cases h
    · obtain ⟨hctx, hmem, htake⟩ := selectAutoGroup_group start rest _ _ h
      refine ⟨hctx, mem_cons_of_mem _ hmem, htake.serves, ?_, ?_⟩
      · exact htried ▸ htake.untried
      · exact htried ▸ htake.tried
    rename_i hnext
    obtain ⟨hnew, hserv⟩ := ChannelCache.getNextSatisfiedChannel_serves hnext
    rw [htried] at hnew h
    split at h
    · cases h; exact ⟨rfl, mem_cons_self, hserv, hnew, rfl⟩
    · cases h; exact ⟨rfl, mem_cons_self, hserv, hnew, rfl⟩

/-- The groups a token may take its channels from. -/
def SelectSettings.groupsOf (settings : SelectSettings) (tokenGroup : String) : List String :=
  if tokenGroup = "auto" then settings.userAutoGroups else [tokenGroup]

theorem SelectSettings.cacheGetRandomSatisfiedChannel_ok
    (h : settings.cacheGetRandomSatisfiedChannel model cache tokenGroup st =
      ((.ok (some channel), group), st')) :
    (tokenGroup = "auto" → st'.context.autoGroup = some group) ∧
      group ∈ settings.groupsOf tokenGroup ∧ Takes cache model group channel st st' := by
  rw [cacheGetRandomSatisfiedChannel] at h
  rw [groupsOf]
  split at h
  · rename_i hauto
    rw [if_pos hauto]
    split at h
    · cases h
    · obtain ⟨hctx, hmem, htake⟩ := selectAutoGroup_group _ _ _ _ h
      exact ⟨fun _ => hctx, mem_of_mem_drop hmem, htake⟩
  rename_i hauto
  rw [if_neg hauto]
  split at h
  · cases h
  rename_i hnext
  cases h
  obtain ⟨hnew, hserv⟩ := ChannelCache.getNextSatisfiedChannel_serves hnext
  exact ⟨(absurd · hauto), mem_singleton.mpr rfl, hserv, hnew, rfl⟩

/-! ## The path of a request -/

/-- The Advanced Custom channels, with the answers of `SupportsPath` for their
routes. -/
structure ChannelRoutes where
  isAdvancedCustom : Nat → Bool
  supportsPath : Nat → String → Bool

def ChannelRoutes.Supports (routes : ChannelRoutes) (path : String) (channel : Nat) : Prop :=
  routes.isAdvancedCustom channel → routes.supportsPath channel path

instance : Decidable (ChannelRoutes.Supports routes path channel) :=
  inferInstanceAs (Decidable (_ → _))

/-- The untried channels of the groups from the cursor on, bucket by bucket, as
far as the cache answers. -/
def offersFrom (find : String → Except String (List (List Nat))) (tried : List Nat) :
    Nat → List String → List (List Nat)
  | _, [] => []
  | priorityIndex, group :: groups =>
    match find group with
    | .error _ => []
    | .ok buckets => untried tried (buckets.drop priorityIndex) ++ offersFrom find tried 0 groups

/-- What a call may choose from, in the order in which it looks. -/
def SelectSettings.offers (settings : SelectSettings) (model : String) (cache : ChannelCache)
    (tokenGroup : String) (st : Selecting) : List (List Nat) :=
  let groups := if tokenGroup ≠ "auto" then [tokenGroup]
    else if settings.autoGroups = [] then []
    else settings.userAutoGroups.drop (st.context.autoGroupIndex.getD 0)
  offersFrom (cache.getSatisfiedChannelBuckets · model) st.param.triedChannels
    st.param.priorityIndex groups

/-- The channel of an answer. -/
def Selected.channel (selected : Selected) : Option Nat := selected.1.toOption.join

theorem SelectSettings.selectAutoGroup_channel (settings : SelectSettings) (model : String)
    (cache : ChannelCache) {start i : Nat} (hstart : start ≤ i) (groups : List String)
    (st : Selecting) :
    Selected.channel (settings.selectAutoGroup model cache start groups i st).1 =
      (cache.pickWeightedChannel (firstOffer (offersFrom (cache.getSatisfiedChannelBuckets · model)
        st.param.triedChannels (if start < i then 0 else st.param.priorityIndex)
        groups))).toOption := by
  induction groups generalizing i st with
  | nil => rfl
  | cons group rest ih =>
    have hparam : (if start < i then { st.param with priorityIndex := 0 } else st.param) =
        { st.param with priorityIndex := if start < i then 0 else st.param.priorityIndex } := by
      split
      · rfl
      · rfl
    rw [selectAutoGroup, hparam, offersFrom]
    generalize (if start < i then 0 else st.param.priorityIndex) = cursor
    dsimp only
    cases hbuckets : cache.getSatisfiedChannelBuckets group model with
    | error => rw [ChannelCache.getNextSatisfiedChannel, hbuckets]; rfl
    | ok buckets =>
    obtain ⟨k, hnext, -⟩ :=
      cache.getNextSatisfiedChannel_eq hbuckets st.param.triedChannels cursor
    rw [hnext, firstOffer_append]
    by_cases hnil : (untried st.param.triedChannels (buckets.drop cursor)).flatten = []
    · rw [if_pos hnil, firstOffer_eq_nil.mpr hnil]
      exact (ih (Nat.le_succ_of_le hstart) _).trans (by rw [if_pos (Nat.lt_succ_of_le hstart)])
    · obtain ⟨channel, hpick, -⟩ := cache.pick_draws (firstOffer_eq_nil.not.mpr hnil)
      rw [if_neg hnil, hpick]
      dsimp only [Except.toOption]
      split
      · rfl
      · rfl

/-- Without cross-group retry a call stays in its group, as long as there is an
untried channel or no later group has one. -/
theorem SelectSettings.call_stays (hoff : settings.crossGroupRetry = false)
    (hgroups : settings.userAutoGroups.drop (st.context.autoGroupIndex.getD 0) = group :: later)
    (hstays : (offersFrom (cache.getSatisfiedChannelBuckets · model) st.param.triedChannels
        st.param.priorityIndex [group]).flatten ≠ [] ∨
      (offersFrom (cache.getSatisfiedChannelBuckets · model) st.param.triedChannels 0
        later).flatten = [])
    (h : settings.cacheGetRandomSatisfiedChannel model cache "auto" st =
      ((.ok (some channel), selected), st')) :
    selected = group ∧ st'.context.autoGroupIndex = some (st.context.autoGroupIndex.getD 0) := by
  rw [cacheGetRandomSatisfiedChannel, if_pos rfl] at h
  split at h
  · cases h
  dsimp only at h
  rw [hgroups, selectAutoGroup, if_neg (Nat.lt_irrefl _)] at h
  dsimp only at h
  cases hbuckets : cache.getSatisfiedChannelBuckets group model with
  | error => rw [ChannelCache.getNextSatisfiedChannel, hbuckets] at h; cases h
  | ok buckets =>
  obtain ⟨k, hnext, -⟩ := cache.getNextSatisfiedChannel_eq hbuckets st.param.triedChannels
    st.param.priorityIndex
  rw [hnext] at h
  by_cases hnil :
      (untried st.param.triedChannels (buckets.drop st.param.priorityIndex)).flatten = []
  · have hlater := hstays.resolve_left (by simp [offersFrom, hbuckets, hnil])
    rw [firstOffer_eq_nil.mpr hnil] at h
    have hnone := (settings.selectAutoGroup_channel model cache (Nat.le_succ _) later _).symm.trans
      (congrArg (Selected.channel ·.1) h)
    rw [if_pos (Nat.lt_succ_self _), firstOffer_eq_nil.mpr hlater] at hnone
    cases hnone
  · obtain ⟨found, hpick, -⟩ := cache.pick_draws (firstOffer_eq_nil.not.mpr hnil)
    simp only [hpick, Except.toOption, hoff, Bool.false_and, Bool.false_eq_true, if_false] at h
    cases h
    exact ⟨rfl, rfl⟩

theorem SelectSettings.call_channel (settings : SelectSettings) (model : String)
    (cache : ChannelCache) (tokenGroup : String) (st : Selecting) :
    Selected.channel (settings.cacheGetRandomSatisfiedChannel model cache tokenGroup st).1 =
      (cache.pickWeightedChannel
        (firstOffer (settings.offers model cache tokenGroup st))).toOption := by
  rw [cacheGetRandomSatisfiedChannel, offers]
  by_cases hauto : tokenGroup = "auto"
  · simp only [hauto, if_true, ne_eq, not_true_eq_false, if_false]
    split
    · rfl
    · rw [selectAutoGroup_channel _ _ _ (Nat.le_refl _), if_neg (Nat.lt_irrefl _)]
  simp only [hauto, if_false, ne_eq, not_false_eq_true, if_true, offersFrom]
  cases hbuckets : cache.getSatisfiedChannelBuckets tokenGroup model with
  | error => rw [ChannelCache.getNextSatisfiedChannel, hbuckets]; rfl
  | ok buckets =>
    obtain ⟨k, hnext, -⟩ :=
      cache.getNextSatisfiedChannel_eq hbuckets st.param.triedChannels st.param.priorityIndex
    simp only [hnext, append_nil]
    rfl

/-- **The path of a request is respected** by every draw of a call exactly when
all channels support it that can be drawn from the first bucket with an untried
one: the selection does not read the path. A channel is returned as long as one
is left. -/
theorem selected_supports_path (settings : SelectSettings) (model : String) (cache : ChannelCache)
    (routes : ChannelRoutes) (tokenGroup : String) (st : Selecting) :
    let offers := settings.offers model cache tokenGroup st
    let answer random := Selected.channel
      (settings.cacheGetRandomSatisfiedChannel model { cache with random } tokenGroup st).1
    let supports := routes.Supports st.param.requestPath
    (∀ random, (∀ channel ∈ answer random, supports channel) ∧
      ((∃ channel ∈ offers.flatten, supports channel) → (answer random).isSome)) ↔
    ∀ channel, cache.Draws (firstOffer offers) channel → supports channel := by
  intro offers answer supports
  have hcall : ∀ random, answer random =
      (ChannelCache.pickWeightedChannel { cache with random } (firstOffer offers)).toOption :=
    fun random => settings.call_channel model { cache with random } tokenGroup st
  constructor
  · intro h channel hdraw
    obtain ⟨random, hpick⟩ := cache.draws_picked hdraw
    exact (h random).1 channel ((hcall random).trans (congrArg Except.toOption hpick))
  intro h random
  rw [hcall]
  by_cases hnil : firstOffer offers = []
  · rw [hnil, firstOffer_eq_nil.mp hnil]
    exact ⟨nofun, fun ⟨_, hmem, _⟩ => absurd hmem not_mem_nil⟩
  · obtain ⟨found, hpick, hdraw⟩ := ChannelCache.pick_draws { cache with random } hnil
    rw [hpick]
    refine ⟨fun channel hchannel => ?_, fun _ => rfl⟩
    obtain rfl := Option.some.inj hchannel
    exact h found hdraw

/-- Channel 1 is in the group `default`, channel 2 in `vip`. -/
def sampleCache : ChannelCache where
  getSatisfiedChannelBuckets group _ := .ok (if group = "default" then [[1]] else [[2]])

def chatSettings : SelectSettings := ⟨3, ["default", "vip"], ["default", "vip"], false⟩

def chatStart : Selecting := ⟨{}, { requestPath := "/v1/chat/completions" }⟩

def chatSelection : Selected × Selecting :=
  chatSettings.cacheGetRandomSatisfiedChannel "gpt-4o" sampleCache "auto" chatStart

/-- Channel 1 has a route for the path. -/
theorem selected_supports_path_chat :
    let routes : ChannelRoutes := ⟨(· == 1), fun _ path => path == "/v1/chat/completions"⟩
    chatSelection.1 = (.ok (some 1), "default") ∧
      routes.Supports chatStart.param.requestPath 1 :=
  ⟨rfl, ((selected_supports_path chatSettings "gpt-4o" sampleCache _ "auto" chatStart).mpr
    (fun _ _ _ => rfl) 0).1 1 rfl⟩

/-- Channel 1 is selected also when its only route is another. -/
theorem selected_ignores_path :
    chatSelection.1 = (.ok (some 1), "default") ∧
      ¬ ChannelRoutes.Supports ⟨(· == 1), fun _ path => path == "/v1/embeddings"⟩
        chatSelection.2.param.requestPath 1 :=
  ⟨rfl, by decide⟩

/-! ## One channel after the other -/

/-- The channels from the cursor on that were not tried. -/
def RetryParam.left (param : RetryParam) (buckets : List (List Nat)) : List Nat :=
  (untried param.triedChannels (buckets.drop param.priorityIndex)).flatten

namespace SelectSettings

variable (settings)

/-- The answers of successive calls, each with the cache it finds. -/
def successive (model tokenGroup : String) :
    List ChannelCache → Selecting → List (Except String (Option Nat))
  | [], _ => []
  | cache :: rest, st =>
    let ((answer, _), st) := settings.cacheGetRandomSatisfiedChannel model cache tokenGroup st
    answer :: successive model tokenGroup rest st

theorem call_left (hgroup : tokenGroup ≠ "auto")
    (hcache : cache.getSatisfiedChannelBuckets tokenGroup model = .ok buckets) (st : Selecting) :
    ∃ answer st', settings.cacheGetRandomSatisfiedChannel model cache tokenGroup st =
        ((.ok answer, tokenGroup), st') ∧
      st'.param.left buckets = (st.param.left buckets).filter (· ∉ answer.toList) ∧
      (answer = none ∧ st.param.left buckets = [] ∨
        ∃ channel ∈ st.param.left buckets, answer = some channel) := by
  obtain ⟨k, hnext, hleft⟩ :=
    cache.getNextSatisfiedChannel_eq hcache st.param.triedChannels st.param.priorityIndex
  simp only [cacheGetRandomSatisfiedChannel, if_neg hgroup, hnext]
  refine ⟨_, _, rfl, ?_, ?_⟩
  · rw [RetryParam.left, RetryParam.left, ← hleft, untried_flatten, untried_flatten, filter_filter]
    exact filter_congr fun channel _ => by simp
  · by_cases hnil : st.param.left buckets = []
    · rw [firstOffer_eq_nil.mpr hnil]
      exact .inl ⟨rfl, hnil⟩
    · obtain ⟨channel, hpick, hdraw⟩ := cache.pick_draws (firstOffer_eq_nil.not.mpr hnil)
      exact .inr ⟨channel, mem_firstOffer hdraw.1, by rw [hpick]; rfl⟩

/-- Calls that find the same buckets return what is left, each channel once,
and then no channel. -/
theorem successive_left (hgroup : tokenGroup ≠ "auto")
    (hcaches : ∀ cache ∈ caches, cache.getSatisfiedChannelBuckets tokenGroup model = .ok buckets)
    (st : Selecting)
    (hnodup : (st.param.left buckets).Nodup) :
    ∃ order : List Nat, order ~ st.param.left buckets ∧
      settings.successive model tokenGroup caches st =
        (range caches.length).map fun i => .ok order[i]? := by
  induction caches generalizing st with
  | nil => exact ⟨_, .rfl, rfl⟩
  | cons _ _ ih =>
    obtain ⟨hcache, hrest⟩ := forall_mem_cons.mp hcaches
    obtain ⟨answer, st', hcall, hleft, hanswer⟩ := settings.call_left hgroup hcache st
    obtain ⟨order, hperm, hcalls⟩ := ih hrest st' (hleft ▸ hnodup.filter _)
    simp only [successive, hcall, hcalls, length_cons, range_succ_eq_map, map_cons, map_map]
    rw [hleft] at hperm
    rcases hanswer with ⟨rfl, hnil⟩ | ⟨channel, hmem, rfl⟩
    · rw [hnil] at hperm ⊢
      obtain rfl := hperm.eq_nil
      exact ⟨[], .rfl, rfl⟩
    · refine ⟨channel :: order, (hperm.cons channel).trans ?_, rfl⟩
      have hcons := (perm_cons_erase hmem).symm
      rw [hnodup.erase_eq_filter] at hcons
      simp only [Option.toList_some, mem_singleton, decide_not]
      exact hcons

/-- **A seeded channel keeps no other channel from being returned once**, before
no channel is, exactly when it is of the first priority. -/
theorem seeded_reaches_all (hgroup : tokenGroup ≠ "auto") (hname : tokenGroup ≠ "")
    (hcaches : ∀ c ∈ cache :: caches,
      c.getSatisfiedChannelBuckets tokenGroup model = .ok (bucket :: rest))
    (hbucket : bucket ≠ []) (hnodup : (bucket :: rest).flatten.Nodup)
    (hcalls : (bucket :: rest).flatten.length ≤ caches.length)
    (hserves : channel ∈ (bucket :: rest).flatten) (hid : channel ≠ 0) (context : GroupContext) :
    (∃ param, RetryParam.seedSelectedChannel {} cache tokenGroup model channel = .ok param ∧
      ∃ order : List Nat, order ~ (bucket :: rest).flatten.filter (· ≠ channel) ∧
        settings.successive model tokenGroup caches ⟨context, param⟩ =
          (range caches.length).map fun i => .ok order[i]?) ↔
      channel ∈ bucket := by
  obtain ⟨hcache, hcaches⟩ := forall_mem_cons.mp hcaches
  have hleft : ∀ idx, RetryParam.left { triedChannels := [channel], priorityIndex := idx }
      (bucket :: rest) = ((bucket :: rest).drop idx).flatten.filter (· ≠ channel) := by
    intro idx
    rw [RetryParam.left, untried_flatten]
    exact filter_congr fun c _ => by simp
  have hdrop : ∀ (idx : Nat) (l : List (List Nat)), (l.drop idx).flatten <+ l.flatten := by
    intro idx l
    conv_rhs => rw [← take_append_drop idx l, flatten_append]
    exact sublist_append_right _ _
  -- the answers are what is left from the priority of the channel on
  obtain ⟨order, hperm, hanswers⟩ := settings.successive_left hgroup hcaches
    ⟨context, { triedChannels := [channel]
                priorityIndex := ((bucket :: rest).findIdx? (channel ∈ ·)).getD 0 }⟩
    (by rw [hleft]; exact (hnodup.sublist (hdrop _ _)).filter _)
  rw [hleft] at hperm
  have hseed : RetryParam.seedSelectedChannel {} cache tokenGroup model channel = .ok
      { triedChannels := [channel]
        priorityIndex := ((bucket :: rest).findIdx? (channel ∈ ·)).getD 0 } := by
    simp [RetryParam.seedSelectedChannel, hid, hname, hcache]
  constructor
  · rintro ⟨param, hparam, order', hperm', hanswers'⟩
    obtain rfl := Except.ok.inj (hseed.symm.trans hparam)
    by_contra hnot
    -- the calls are enough to compare the two orders to their ends
    have hlength : order.length ≤ caches.length := by
      rw [hperm.length_eq]
      exact Nat.le_trans (length_filter_le _ _) (Nat.le_trans (hdrop _ _).length_le hcalls)
    have hlength' : order'.length ≤ caches.length := by
      rw [hperm'.length_eq]
      exact Nat.le_trans (length_filter_le _ _) hcalls
    obtain rfl : order = order' := by
      refine ext_getElem? fun i => ?_
      by_cases hi : i < caches.length
      · have hsame := congrArg (·[i]?) (hanswers.symm.trans hanswers')
        simpa [hi] using hsame
      · rw [getElem?_eq_none (by omega), getElem?_eq_none (by omega)]
    obtain ⟨first, hfirst⟩ := exists_mem_of_ne_nil bucket hbucket
    have hmem : first ∈ order := hperm'.mem_iff.mpr
      (mem_filter.mpr ⟨mem_append_left _ hfirst, by simp; rintro rfl; exact hnot hfirst⟩)
    have hlater := (mem_filter.mp (hperm.mem_iff.mp hmem)).1
    rw [flatten_cons, mem_append] at hserves
    obtain ⟨later, hlater', hin⟩ := mem_flatten.mp (hserves.resolve_left hnot)
    obtain ⟨idx, hidx⟩ : ∃ idx, rest.findIdx? (channel ∈ ·) = some idx :=
      Option.isSome_iff_exists.mp (by simpa using ⟨later, hlater', hin⟩)
    rw [findIdx?_cons, if_neg (by simpa using hnot), hidx] at hlater
    obtain ⟨-, -, hapart⟩ := nodup_append.mp hnodup
    exact hapart first hfirst first ((hdrop idx rest).subset hlater) rfl
  · intro hfirst
    refine ⟨_, hseed, order, ?_, hanswers⟩
    simpa [findIdx?_cons, hfirst] using hperm

/-- A group of two priorities. -/
def sampleBuckets : ChannelCache where
  getSatisfiedChannelBuckets _ _ := .ok [[1, 3], [2]]

/-- Channel 1 is seeded; two calls return the others, and the third none. -/
theorem seeded_reaches_all_sample :
    ∃ param, RetryParam.seedSelectedChannel {} sampleBuckets "default" "gpt-5" 1 = .ok param ∧
      ∃ order : List Nat, order ~ [[1, 3], [2]].flatten.filter (· ≠ 1) ∧
        successive ⟨3, [], [], false⟩ "gpt-5" "default" (replicate 3 sampleBuckets) ⟨{}, param⟩ =
          (range 3).map fun i => .ok order[i]? :=
  (seeded_reaches_all _ (by decide) (by decide) (by simp [sampleBuckets]) (by decide) (by decide)
    (by decide) (by decide) (by decide) {}).mpr (by decide)

/-- With a seeded channel of the second priority the first is never tried. -/
theorem seeded_skips_priority :
    (RetryParam.seedSelectedChannel {} sampleBuckets "default" "gpt-5" 2).toOption.map
      (fun param => successive ⟨3, [], [], false⟩ "gpt-5" "default" [sampleBuckets]
        ⟨{}, param⟩) = some [.ok none] :=
  rfl

end SelectSettings

end HermesToken.Relay
