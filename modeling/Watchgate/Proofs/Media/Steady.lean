import Watchgate.Proofs.Session.Answers
import Watchgate.Proofs.Media.Browsing

/-!
# What lookups depend on

A lookup asks the store for an instance and the other servers for metadata. Whatever else a session
holds, its rules and its journal among them, a lookup does not notice: two sessions with the same
servers give it the same answer and have the same servers afterwards. So it makes no difference to the
answers of a series of lookups what is written into the journal between them.
-/

namespace Watchgate

open Act

/-- Two sessions with the same instances, outages, other servers and connections. -/
structure Session.SameServers (s s' : Session) : Prop where
  instances : s'.store.instances = s.store.instances
  outages : s'.outages = s.outages
  network : s'.network = s.network
  clients : s'.clients = s.clients

namespace Act

/-- The act notices nothing but the servers. -/
def NoticesServers {α : Type} (x : Act α) : Prop :=
  ∀ s s', s.SameServers s' → (x s).1 = (x s').1 ∧ (x s).2.SameServers (x s').2

theorem indistinct_sameServers : Indistinct Store.SameInstances Session.SameServers where
  tables h := h.instances
  outages h := h.outages
  network h := h.network
  clients h := h.clients
  noted h _ := ⟨h.instances, h.outages, h.network, h.clients⟩
  sent h _ _ := ⟨h.instances, h.outages, rfl, h.clients⟩
  connected h _ := ⟨h.instances, h.outages, h.network, rfl⟩

/-- An act that reads no table but the instances notices nothing but the servers. -/
theorem Browses.noticesServers {α : Type} {x : Act α} (h : x.Browses Store.SameInstances) :
    x.NoticesServers := h.lockstep indistinct_sameServers

end Act

namespace Lookup

/-- A lookup notices nothing but the servers. -/
theorem noticesServers_metadata (item : Item) (contentType : Value) :
    (metadata item contentType).NoticesServers := (browses_metadata item contentType).noticesServers

/-! ## Completing an item -/

/-- The item with what a lookup gave. -/
def completedWith (item : Item) : Option Metadata → Item
  | none => item
  | some m => item.withMetadata
      (if m.genres.isEmpty && !item.genres.isEmpty then { m with genres := item.genres } else m)

theorem enrich_eq (item : Item) (contentType : Value) :
    enrich item contentType = completedWith item <$> metadata item contentType := by
  rw [map_eq_pure_bind]
  refine congrArg (metadata item contentType >>= ·) (funext fun m => ?_)
  cases m <;> rfl

theorem noticesServers_enrich (item : Item) (contentType : Value) :
    (enrich item contentType).NoticesServers := (browses_enrich item contentType).noticesServers

theorem genres_completedWith (item : Item) (m : Option Metadata) :
    (completedWith item m).genres = item.genres := by
  cases m <;> rfl

/-- A lookup asks for the identifiers and the title; other metadata makes no difference to it. -/
theorem metadata_completedWith (item : Item) (m : Option Metadata) (contentType : Value) :
    metadata (completedWith item m) contentType = metadata item contentType := by
  cases m <;> rfl

/-- Without identifiers there is nothing to look up. -/
theorem metadata_of_no_guids {item : Item} (hguids : item.guids = []) {contentType : Value}
    {s : Session} {m : Option Metadata} (h : (metadata item contentType s).1 = .ok m) : m = none := by
  obtain ⟨id, s₁, hid, h⟩ := bind_returns (Prod.ext h rfl : metadata item contentType s = (.ok m, _))
  obtain ⟨client, s₂, -, h⟩ := bind_returns h
  have hid : id = none := by
    have := (ofResult_returns hid).1
    simp only [Item.guidId, hguids] at this
    exact (Except.ok.inj this).symm
  subst hid
  exact (pure_returns h).1.symm

/-! ## Lookups that all give the same -/

/-- The next lookups of the item, as many as are counted, end without a failure and all give the same
metadata, or all none. -/
def Steady (item : Item) (contentType : Value) (m : Option Metadata) : Nat → Session → Prop
  | 0, _ => True
  | n + 1, s => (metadata item contentType s).1 = .ok m ∧
      Steady item contentType m n (metadata item contentType s).2

theorem Steady.congr {item : Item} {contentType : Value} {m : Option Metadata} {n : Nat}
    {s s' : Session} (h : Steady item contentType m n s) (hs : s.SameServers s') :
    Steady item contentType m n s' := by
  induction n generalizing s s' with
  | zero => trivial
  | succ n ih =>
    obtain ⟨hvalue, hnext⟩ := h
    obtain ⟨heq, hs'⟩ := noticesServers_metadata item contentType s s' hs
    exact ⟨heq ▸ hvalue, ih hnext hs'⟩

theorem Steady.journal {item : Item} {contentType : Value} {m : Option Metadata} {n : Nat}
    {s : Session} (h : Steady item contentType m n s) (entries : List Entry) :
    Steady item contentType m n { s with journal := entries } :=
  h.congr ⟨rfl, rfl, rfl, rfl⟩

end Lookup

end Watchgate
