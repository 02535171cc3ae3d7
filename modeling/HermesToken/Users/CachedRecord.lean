import HermesToken.Lib.Run

/-!
# Cached records

The hash in which Redis keeps a user or a token: `RedisHSetObj`, `RedisHIncrBy`,
`RedisHSetField` and `RedisHGetObj` of `common/redis.go`. Every command is atomic
and the key may expire between any two. A write to one field asks for the time
to live FIRST and is sent later. If the key has expired in between, the write
makes a hash of that one field.
-/

namespace HermesToken.Users

open Lib

inductive CacheValue where
  | number (n : Int)
  | text (s : String)
  deriving DecidableEq

/-- A hash, and whether it has a time to live. Redis has no empty hashes. -/
structure CachedHash where
  fields : String → Option CacheValue := fun _ => none
  expires : Bool := false

/-- HSET. -/
def CachedHash.set (h : CachedHash) (data : String → Option CacheValue) : CachedHash :=
  { h with fields := fun name => (data name).or (h.fields name) }

/-- `RedisHIncrBy` and `RedisHSetField`. -/
inductive FieldWrite where
  | hIncrBy (field : String) (delta : Int)
  | hSetField (field : String) (value : CacheValue)

/-- HINCRBY takes a missing field as zero and fails on a text. -/
def FieldWrite.send (h : CachedHash) : FieldWrite → CachedHash
  | .hIncrBy field delta =>
    match (h.fields field).getD (.number 0) with
    | .number n => h.set fun name => if name = field then some (.number (n + delta)) else none
    | .text _ => h
  | .hSetField field value => h.set fun name => if name = field then some value else none

/-- The key of a record, and the writes that have found a time to live. -/
structure CacheKey where
  hash : Option CachedHash := none
  pending : List FieldWrite := []

/-- A command. The time to live is rounded, so `ttl` may find none. -/
inductive CacheCommand where
  | hSetObj (obj : String → CacheValue) (expiration : Int)
  | ttl (write : FieldWrite) (positive : Bool)
  | send (k : ℕ)
  | expire

/-- The commands on records with the fields `names`. -/
def CacheKey.step (names : List String) (s : CacheKey) : CacheCommand → CacheKey
  | .hSetObj obj expiration =>
    let h := (s.hash.getD {}).set fun name => if name ∈ names then some (obj name) else none
    { s with hash := some { h with expires := h.expires || decide (0 < expiration) } }
  | .ttl write positive =>
    if positive && s.hash.any (·.expires) then { s with pending := s.pending ++ [write] } else s
  | .send k =>
    match s.pending[k]? with
    | none => s
    | some write =>
      { hash := some { write.send (s.hash.getD {}) with expires := true }
        pending := s.pending.eraseIdx k }
  | .expire => if s.hash.any (·.expires) then { s with hash := none } else s

/-- `RedisHGetObj`: a miss, or what is found for each field. Where that is
nothing, the object keeps its default. -/
def CacheKey.hGetObj (names : List String) (s : CacheKey) : Option (List (Option CacheValue)) :=
  s.hash.map fun h => names.map h.fields

/-- What is cached has all fields, and it is there for every write to be sent. -/
structure CacheKey.Whole (names : List String) (s : CacheKey) : Prop where
  fields : ∀ h, s.hash = some h → ∀ name ∈ names, (h.fields name).isSome
  there : s.pending ≠ [] → s.hash.isSome

theorem FieldWrite.send_isSome {h : CachedHash} (hname : (h.fields name).isSome)
    (write : FieldWrite) : ((write.send h).fields name).isSome := by
  cases write with
  | hIncrBy =>
    simp only [send]
    split
    · simp [CachedHash.set, hname]
    · exact hname
  | hSetField => simp [send, CachedHash.set, hname]

theorem CacheKey.Whole.step {s : CacheKey} (hs : s.Whole names) (c : CacheCommand)
    (hkept : c = .expire → s.pending = []) : (s.step names c).Whole names := by
  cases c with
  | hSetObj =>
    refine ⟨fun h hh name hname => ?_, fun _ => rfl⟩
    cases hh
    simp [CachedHash.set, hname]
  | ttl =>
    simp only [CacheKey.step]
    split
    · rename_i hfound
      refine ⟨hs.fields, fun _ => ?_⟩
      cases hhash : s.hash with
      | none => simp [hhash] at hfound
      | some => rfl
    · exact hs
  | send =>
    simp only [CacheKey.step]
    split
    · exact hs
    · rename_i write hwrite
      have hthere := hs.there (List.ne_nil_of_mem (List.mem_of_getElem? hwrite))
      obtain ⟨h, hhash⟩ := Option.isSome_iff_exists.mp hthere
      refine ⟨fun h' hh name hname => ?_, fun _ => rfl⟩
      rw [hhash] at hh
      cases hh
      exact write.send_isSome (hs.fields h hhash name hname)
  | expire =>
    simp only [CacheKey.step]
    split
    · exact ⟨fun _ hnone => (by cases hnone), fun hne => absurd (hkept rfl) hne⟩
    · exact hs

/-- **A hit is a whole record**, as long as the key does not expire between the
two commands of a write. -/
theorem hit_whole {names : List String} {commands : List CacheCommand}
    (hkept : Along (CacheKey.step names) (fun s c => c = .expire → s.pending = []) {} commands) :
    ∀ values ∈ (exec (CacheKey.step names) {} commands).hGetObj names, none ∉ values := by
  have hs := Along.invariant (CacheKey.Whole names) (fun _ c hs hc => hs.step c hc)
    ⟨fun _ hnone => (by cases hnone), fun hne => absurd rfl hne⟩ hkept
  intro values hvalues hnone
  obtain ⟨h, hhash, rfl⟩ := Option.map_eq_some_iff.mp hvalues
  obtain ⟨name, hname, hmissing⟩ := List.mem_map.mp hnone
  simpa [hmissing] using hs.fields h hhash name hname

/-- The quota of a user is raised, and the user is read. -/
def sampleRead (between : List CacheCommand) : Option (List (Option CacheValue)) :=
  (exec (CacheKey.step ["Id", "Quota"]) {} ([.hSetObj (fun _ => .number 7) 60,
    .ttl (.hIncrBy "Quota" 5) true] ++ between ++ [.send 0])).hGetObj ["Id", "Quota"]

theorem hit_whole_sample :
    sampleRead [] = some [some (.number 7), some (.number 12)] ∧
      ∀ values ∈ sampleRead [], none ∉ values :=
  ⟨rfl, hit_whole (by simp [Along])⟩

/-- The key expires before the increment is sent, and the user has no id. -/
theorem hit_partial : sampleRead [.expire] = some [none, some (.number 5)] :=
  rfl

end HermesToken.Users
