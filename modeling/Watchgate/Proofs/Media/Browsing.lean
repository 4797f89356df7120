import Watchgate.Proofs.Session.Browsing
import Watchgate.Media.Acquire
import Watchgate.Media.Lookup

/-!
# Media servers are talked to by browsing

Looking something up at a media server and adding content there read the instances, and no other
table. So neither changes a record, whatever the server answers.
-/

namespace Watchgate

open Act

/-- Two stores with the same instances. -/
def Store.SameInstances (s s' : Store) : Prop := s'.instances = s.instances

namespace Act

theorem consults_getInstance (id : Int) (type : Value) :
    (getInstance id type).Consults Store.SameInstances :=
  .reading fun _ _ h => by
    unfold Store.getInstance Store.instanceRows
    rw [h]

theorem browses_getInstances (type : Value) :
    (getInstances type).Browses Store.SameInstances :=
  .reading fun _ _ h => by
    unfold Store.getInstances Store.instanceRows
    rw [h]

theorem consults_getDefaultInstance (type : String) :
    (getDefaultInstance type).Consults Store.SameInstances :=
  .reading fun _ _ h => by
    unfold Store.getDefaultInstance
    rw [h]

theorem browses_searchClient (type : String) : (searchClient type).Browses Store.SameInstances := by
  have hclient : ∀ i : Instance, (if i.baseUrl.isEmpty then pure none else some <$> clientFor i :
      Act (Option Client)).Browses Store.SameInstances :=
    fun i => .ite (.value _) (.map _ (.connection i))
  refine .sequence (consults_getDefaultInstance type).browses fun found => ?_
  cases found with
  | some i => exact hclient i
  | none =>
    refine .sequence (browses_getInstances _) fun all => ?_
    cases all.find? Instance.enabled with
    | some i => exact hclient i
    | none => exact .value _

end Act

namespace Client

variable {same : Store → Store → Prop}

theorem browses_request (c : Client) (call : Call) : (c.request call).Browses same := by
  refine .sequence (.exchange call) fun reply => ?_
  cases bodyOf call.url reply with
  | ok body => exact .result _
  | error e =>
    refine .sequence ?_ fun _ => .failure e
    unfold noteFailure
    split
    · exact .entry _ _
    · exact .value _

theorem browses_resolveProfile (c : Client) (profile : Value) :
    (c.resolveProfile profile).Browses same := by
  unfold resolveProfile
  split
  · exact .value _
  · have hprofiles : c.qualityProfiles.Browses same :=
      .sequence (browses_request c _) fun _ => .value _
    refine .ite (.sequence (.result _) fun _ => .value _) ?_
    refine .sequence hprofiles fun _ => .sequence (.result _) fun found => ?_
    cases found with
    | some id => exact .value _
    | none => exact .failure _

theorem browses_resolveLabel (c : Client) (known : Entries) (label : Value) :
    (c.resolveLabel known label).Browses same := by
  unfold resolveLabel
  split
  · have hcreated : (c.createTag (.text label.display)).Browses same := browses_request c _
    exact .sequence hcreated fun _ => .sequence (.result _) fun _ => .value _
  · exact .value _

theorem browses_resolveTags (c : Client) (tags : List Value) :
    (c.resolveTags tags).Browses same := by
  have htags : c.tags.Browses same := .sequence (browses_request c _) fun _ => .value _
  refine .sequence (.result _) fun ids => .ite (.value _) ?_
  refine .sequence htags fun _ => .sequence (.result _) fun known => ?_
  exact .sequence (.mapM fun label _ => browses_resolveLabel c _ label) fun _ => .value _

theorem browses_findMovie (c : Client) (id : Value) : (c.findMovie id).Browses same := by
  refine .sequence (browses_request c _) fun _ => .ite ?_ (.value _)
  exact .sequence (.result _) fun _ => .value _

theorem browses_findShow (c : Client) (id : Value) : (c.findShow id).Browses same := by
  refine .sequence (browses_request c _) fun _ => .ite ?_ (.value _)
  exact .sequence (.result _) fun _ => .sequence (.result _) fun _ => .value _

end Client

namespace Lookup

theorem browses_trySearch {same : Store → Store → Prop} (title : Value) {x : Act (Option Found)}
    (hx : x.Browses same) : (trySearch title x).Browses same :=
  .recovery (.map _ hx) fun e => .ite (.sequence (.entry _ _) fun _ => .value _) (.failure e)

theorem browses_metadata (item : Item) (contentType : Value) :
    (metadata item contentType).Browses Store.SameInstances := by
  refine .sequence (.result _) fun id => .sequence (browses_searchClient _) fun client => ?_
  rcases id with _ | id
  · exact .value _
  rcases client with _ | client
  · exact .value _
  have hsearch : (search (contentType.isOneOf ["movie"]) client id).Browses Store.SameInstances :=
    .ite (client.browses_findMovie _) (client.browses_findShow _)
  refine .sequence (browses_trySearch _ hsearch) fun found => ?_
  rcases found with _ | _ | found
  · exact .value _
  · exact .sequence (.entry _ _) fun _ => .value _
  · exact .value _

theorem browses_enrich (item : Item) (contentType : Value) :
    (enrich item contentType).Browses Store.SameInstances := by
  refine .sequence (browses_metadata item contentType) fun m => ?_
  cases m <;> exact .value _

theorem quiet_enrich (item : Item) (contentType : Value) : (enrich item contentType).Quiet :=
  (browses_enrich item contentType).quiet

end Lookup

namespace Acquire

variable {same : Store → Store → Prop}

theorem browses_cannot (item : Item) (reason : String) : (cannot item reason).Browses same :=
  .sequence (.entry _ _) fun _ => .value _

theorem browses_handIn (item : Item) (p : Placement) (i : Instance) (c : Client) :
    (handIn item p i c).Browses same := by
  refine .sequence (c.browses_resolveProfile _) fun profile => ?_
  refine .sequence (c.browses_resolveTags _) fun tags => .sequence (.result _) fun body => ?_
  cases body with
  | none => exact browses_cannot item _
  | some body =>
    have hadded : ∀ x : Act Value, x.Browses same → (x >>= fun _ => do
        info ("Added '" ++ item.title.display ++ "' to " ++ i.type.display ++ " '"
          ++ i.name.display ++ "'")
        return true).Browses same := fun x hx =>
      .sequence hx fun _ => .sequence (.entry _ _) fun _ => .value _
    exact .ite (hadded _ (c.browses_request _)) (hadded _ (c.browses_request _))

theorem browses_tryHandIn (item : Item) (i : Instance) {x : Act Bool} (hx : x.Browses same) :
    (tryHandIn item i x).Browses same :=
  .recovery hx fun e => .ite (.sequence (.entry _ _) fun _ => .value _) (.failure e)

/-- Adding content to an instance browses. -/
theorem browses_acquire (isDryRun : Bool) (item : Item) (p : Placement) :
    (acquire isDryRun item p).Browses Store.SameInstances := by
  refine .sequence (consults_getInstance _ _).browses fun found => ?_
  cases found with
  | none => exact browses_cannot item _
  | some i =>
    refine .ite (browses_cannot item _) (.ite (.sequence (.entry _ _) fun _ => .value _) ?_)
    exact .sequence (.connection i) fun c => browses_tryHandIn item i (browses_handIn item p i c)

end Acquire

end Watchgate
