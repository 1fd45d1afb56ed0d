/-
Whose result a cache hit hands on, and when its call agrees in all parameters.
-/
import Voly.Gateway.Cache
import Voly.Python.JsonValue

namespace Voly.Gateway

open Python Interaction

variable {I C : Type}

/-- Equal up to the order of the keys of dictionaries. -/
def SameValues (xs ys : List Value) : Prop := sortItems xs = sortItems ys

/-- The parameters that the key is made from. -/
structure SameKeyed (a b : Request) : Prop where
  messages : SameValues a.messages b.messages
  model : a.model = b.model
  provider : a.provider = b.provider
  system : a.system.getD "" = b.system.getD ""
  kwargs : kwargsText a.kwargs = kwargsText b.kwargs

/-- The parameters that the key leaves out. -/
structure SameUnkeyed (a b : Request) : Prop where
  system : a.system = b.system
  tools : a.tools.map sortItems = b.tools.map sortItems
  temperature : a.temperature = b.temperature
  maxTokens : a.maxTokens = b.maxTokens

structure SameParameters (a b : Request) : Prop where
  messages : SameValues a.messages b.messages
  model : a.model = b.model
  provider : a.provider = b.provider
  system : a.system = b.system
  tools : a.tools.map sortItems = b.tools.map sortItems
  temperature : a.temperature = b.temperature
  maxTokens : a.maxTokens = b.maxTokens

theorem SameKeyed.parameters {a b : Request} (h : SameKeyed a b)
    (h' : SameUnkeyed a b) : SameParameters a b where
  messages := h.messages
  model := h.model
  provider := h.provider
  system := h'.system
  tools := h'.tools
  temperature := h'.temperature
  maxTokens := h'.maxTokens

theorem sortKeys_keyDocument (request : Request) (scope : String) :
    sortKeys (keyDocument request scope) = .dict [
      ("extra", .str (kwargsText request.kwargs)),
      ("messages", .list (sortItems request.messages)),
      ("model", .str request.model),
      ("provider", .str request.provider),
      ("scope", .str scope),
      ("system", .str (request.system.getD ""))] := by
  have hsystem : ¬("system" ≤ "extra" ∨ "system" ≤ "scope") := by decide
  have hprovider : ¬("provider" ≤ "extra") ∧ "provider" ≤ "scope" := by
    decide
  have hmodel : ¬("model" ≤ "extra") ∧ "model" ≤ "provider" := by decide
  have hmessages : ¬("messages" ≤ "extra") ∧ "messages" ≤ "model" := by
    decide
  have hextra : "extra" ≤ "scope" := by decide
  rw [not_or] at hsystem
  simp only [keyDocument, sortKeys, sortFields, List.orderedInsert, hsystem,
    hprovider, hmodel, hmessages, hextra, if_true, if_false]

theorem cacheKey_inj {sha256 : List Char → String}
    (hsha : Function.Injective sha256) {a b : Request} {s t : String}
    (h : cacheKey sha256 a s = cacheKey sha256 b t) :
    SameKeyed a b ∧ s = t := by
  have hdocument := dumps_injective (hsha h)
  rw [sortKeys_keyDocument, sortKeys_keyDocument] at hdocument
  simp only [Value.dict.injEq, List.cons.injEq, Prod.mk.injEq, true_and,
    Value.str.injEq, Value.list.injEq, and_true] at hdocument
  obtain ⟨hkwargs, hmessages, hmodel, hprovider, hscope, hsystem⟩ := hdocument
  exact ⟨⟨hmessages, hmodel, hprovider, hsystem, hkwargs⟩, hscope⟩

/-- What a call asks for by now, and what its lookup came to. -/
structure CacheView where
  request : Request
  looked : Bool := false
  found : Option Response := none

def CacheView.next (view : CacheView) :
    (op : GatewayOp) → GatewayReply op → CacheView
  | .warnRerouted _ alternative, _ =>
      { view with request := view.request.reroutedTo alternative }
  | .cacheGet _, found => { view with looked := true, found }
  | _, _ => view

section Call

variable (sha256 : List Char → String) (scope : String)

/-- A call is rerouted before it looks up its key, and stores under the key
that it has looked up. -/
def CacheView.allows (view : CacheView) : GatewayOp → Prop
  | .warnRerouted _ _ => view.looked = false
  | .cacheGet key =>
      view.looked = false ∧ key = cacheKey sha256 view.request scope
  | .cacheSet key _ =>
      view.looked = true ∧ key = cacheKey sha256 view.request scope
  | _ => True

def cacheProtocol : Protocol GatewayOp GatewayReply CacheView where
  allows := CacheView.allows sha256 scope
  relies := fun _ _ _ => True
  next := CacheView.next

/-- A result that is marked as a hit is the one that was found. -/
def HandsOn (out : Except String Response) (view : CacheView) : Prop :=
  ∀ response, out = .ok response → response.cacheHit = true →
    ∃ value, view.found = some value ∧
      response = { value with cacheHit := true }

theorem handsOn_fresh {result : Response} (h : result.cacheHit = false)
    (view : CacheView) : HandsOn (.ok result) view := by
  intro response hresponse hhit
  cases hresponse
  rw [h] at hhit
  cases hhit

theorem handsOn_error (e : String) (view : CacheView) :
    HandsOn (.error e) view := by
  intro response hresponse
  cases hresponse

theorem wp_atProviders {A : Type} {R : A → Prop} {x : GatewayScript A}
    (h : Script.Only (fun op => op.atProvider = true) R x)
    (view : CacheView) :
    Script.wp (cacheProtocol sha256 scope) x
      (fun out _ view' => view' = view ∧ ∀ a, out = .ok a → R a) () view := by
  apply h.wp
  · intro op hop
    cases op with
    | healthy _ => trivial
    | markUnhealthy _ _ => trivial
    | call _ _ _ => trivial
    | _ => cases hop
  · intro op reply hop
    cases op with
    | healthy _ => rfl
    | markUnhealthy _ _ => rfl
    | call _ _ _ => rfl
    | _ => cases hop

theorem wp_unnoticed {A : Type} {op : GatewayOp} {view : CacheView}
    {f : GatewayReply op → GatewayScript A}
    {Q : Except String A → Unit → CacheView → Prop}
    (hallow : view.allows sha256 scope op)
    (hnext : ∀ reply, view.next op reply = view)
    (h : ∀ reply, Script.wp (cacheProtocol sha256 scope) (f reply) Q () view) :
    Script.wp (cacheProtocol sha256 scope) (Script.ask op >>= f) Q ()
      view := by
  rw [Script.wp_ask_bind]
  refine ⟨hallow, ?_⟩
  intro reply _
  change Script.wp _ _ Q () (view.next op reply)
  rw [hnext]
  exact h reply

theorem wp_atProviders_bind {A B : Type} {R : A → Prop}
    {x : GatewayScript A} {f : A → GatewayScript B} {view : CacheView}
    {Q : Except String B → Unit → CacheView → Prop}
    (h : Script.Only (fun op => op.atProvider = true) R x)
    (hok : ∀ a, R a → Script.wp (cacheProtocol sha256 scope) (f a) Q () view)
    (herror : ∀ e, Q (.error e) () view) :
    Script.wp (cacheProtocol sha256 scope) (x >>= f) Q () view := by
  apply Script.wp_seq (wp_atProviders sha256 scope h view)
  · rintro a _ _ ⟨rfl, ha⟩
    exact hok a (ha a rfl)
  · rintro e _ _ ⟨rfl, _⟩
    exact herror e

variable (gateway : AIGateway) (request : Request)

/-- A call goes on with what it is seen to ask for, in its own scope. -/
def Rerouted (request : Request) (out : Except String Request)
    (view : CacheView) : Prop :=
  ∀ rerouted, out = .ok rerouted →
    view = { request := rerouted } ∧
      rerouted.cacheScope = request.cacheScope

theorem reroute_cached :
    Script.wp (cacheProtocol sha256 scope) (reroute request)
      (fun out _ view => Rerouted request out view) () { request } := by
  have hunnoticed : HealthUnnoticed (cacheProtocol sha256 scope)
      { request } := ⟨fun _ => trivial, fun _ _ => rfl⟩
  apply hunnoticed.reroute request
  · intro rerouted hrerouted
    cases hrerouted
    exact ⟨rfl, rfl⟩
  · intro alternative
    refine ⟨rfl, ?_⟩
    intro rerouted hrerouted
    cases hrerouted
    exact ⟨rfl, rfl⟩

theorem settleResult_cached {view : CacheView}
    (hlooked : gateway.cacheEnabled = true → view.looked = true)
    (result : Response)
    (hresult : result.cacheHit = false) :
    Script.wp (cacheProtocol sha256 scope)
      (settleResult gateway request (cacheKey sha256 view.request scope)
        result)
      (fun out _ view' => HandsOn out view') () view := by
  have hfresh := handsOn_fresh hresult
  unfold settleResult
  split
  · split
    · apply wp_atProviders_bind sha256 scope (markProviderFromError_only _ _)
      · exact fun _ _ => hfresh view
      · exact fun e => handsOn_error e view
    · exact hfresh view
  · refine wp_unnoticed sha256 scope trivial (fun _ => rfl) fun _ => ?_
    refine wp_unnoticed sha256 scope trivial (fun _ => rfl) fun _ => ?_
    split
    · next henabled =>
        rw [Script.wp_bind, Script.wp_askOk]
        refine ⟨⟨hlooked henabled, rfl⟩, ?_⟩
        intro stored _
        cases stored with
        | ok _ => exact hfresh _
        | error e => exact handsOn_error e _
    · exact hfresh view

theorem admitted_cached (view : CacheView)
    (hlooked : gateway.cacheEnabled = true → view.looked = true) :
    Script.wp (cacheProtocol sha256 scope)
      (admitted gateway request (cacheKey sha256 view.request scope))
      (fun out _ view' => HandsOn out view') () view := by
  apply wp_admitted ⟨trivial, fun _ => rfl⟩ (handsOn_fresh rfl view) trivial
    (handsOn_fresh rfl view)
  apply wp_atProviders_bind sha256 scope (dispatch_atProviders gateway request)
  · exact settleResult_cached sha256 scope gateway request hlooked
  · exact fun e => handsOn_error e view

theorem lookedUp_cached :
    Script.wp (cacheProtocol sha256
        (orElse request.cacheScope gateway.cacheScope))
      (lookedUp sha256 gateway request)
      (fun out _ view => HandsOn out view) () { request } := by
  unfold lookedUp
  dsimp only
  split
  · rw [Script.wp_ask_bind]
    refine ⟨⟨rfl, rfl⟩, ?_⟩
    intro cached _
    cases cached with
    | some value =>
        intro response hresponse _
        cases hresponse
        exact ⟨value, rfl, rfl⟩
    | none =>
        exact admitted_cached sha256 _ gateway request
          { request, looked := true } fun _ => rfl
  · next hdisabled =>
      exact admitted_cached sha256 _ gateway request { request }
        fun henabled => (hdisabled henabled).elim

theorem chat_cached :
    Script.wp (cacheProtocol sha256
        (orElse request.cacheScope gateway.cacheScope))
      (chat sha256 gateway request)
      (fun out _ view => HandsOn out view) () { request } := by
  unfold chat
  split
  · split
    · exact handsOn_error _ _
    · rw [Script.wp_bind]
      refine Script.wp_mono (reroute_cached sha256 _ request) ?_
      intro out _ view hview
      cases out with
      | error e => exact handsOn_error e view
      | ok rerouted =>
          obtain ⟨rfl, hscope⟩ := hview rerouted rfl
          dsimp only
          rw [← hscope]
          exact lookedUp_cached sha256 gateway rerouted
    · exact handsOn_fresh rfl _
  · refine Script.wp_mono
      (wp_atProviders sha256 _ (directCall_atProviders request.sent) _) ?_
    rintro out _ view ⟨_, hresult⟩
    cases out with
    | ok result => exact handsOn_fresh (hresult result rfl) view
    | error e => exact handsOn_error e view

end Call

section Sharing

variable (sha256 : List Char → String) (configs : C → CacheConfig)
  (users : I → CacheUser C)

/-- No call that has stored in a shared cache agrees in the key and differs in
what the key leaves out. -/
def KeyTells (world : CacheWorld I C) (j : I) : GatewayOp → Prop
  | .cacheGet _ => ∀ i value, (i, value) ∈ world.stored →
      Shares configs (users j).cache (users i).cache →
      (users i).scope = (users j).scope →
      SameKeyed (world.asked i) (world.asked j) →
        SameUnkeyed (world.asked i) (world.asked j)
  | _ => True

/-- Call `j` was answered with the result `value`, which call `i` stored for
the same parameters and the same scope. -/
def AnsweredBy (world : CacheWorld I C) (j i : I) (value : Response) : Prop :=
  world.source j = some i ∧ (i, value) ∈ world.stored ∧
    SameParameters (world.asked i) (world.asked j) ∧
    (users i).scope = (users j).scope

/-- Every cache hit hands on the result of a call with the same parameters. -/
def HitsSound (pool : Pool GatewayOp GatewayReply I (CacheWorld I C)
    (fun _ => Except String Response × Unit)) : Prop :=
  ∀ j response, pool.procs j = .done (.ok response, ()) →
    response.cacheHit = true →
    ∃ i value, response = { value with cacheHit := true } ∧
      AnsweredBy users pool.world j i value

/-- An entry is under the key of a call that has stored it. -/
structure Backed (world : CacheWorld I C) (key : String)
    (entry : CacheEntry I) : Prop where
  stored : (entry.storedBy, entry.value) ∈ world.stored
  key : key = cacheKey sha256 (world.asked entry.storedBy)
    (users entry.storedBy).scope

/-- What the caches and the views of the calls have in common. -/
structure Traced (world : CacheWorld I C) (views : I → CacheView) :
    Prop where
  asked : ∀ i, world.asked i = (views i).request
  memory : ∀ c key entry, (key, entry) ∈ world.memory c →
    Backed sha256 users world key entry ∧
      Shares configs c (users entry.storedBy).cache
  disk : ∀ directory key entry, (key, entry) ∈ world.disk directory →
    Backed sha256 users world key entry ∧ directory ≠ "" ∧
      directory = (configs (users entry.storedBy).cache).persistDir
  stored : ∀ i value, (i, value) ∈ world.stored → (views i).looked = true
  found : ∀ j value, (views j).found = some value →
    (views j).looked = true ∧ ∃ i, AnsweredBy users world j i value

variable {sha256 configs users} {world world' : CacheWorld I C}
  {views : I → CacheView}

theorem Backed.mono {key : String} {entry : CacheEntry I}
    (h : Backed sha256 users world key entry)
    (hasked : world'.asked = world.asked)
    (hstored : world.stored ⊆ world'.stored) :
    Backed sha256 users world' key entry where
  stored := hstored h.stored
  key := by
    rw [hasked]
    exact h.key

theorem AnsweredBy.mono {j i : I} {value : Response}
    (h : AnsweredBy users world j i value)
    (hsource : world'.source j = world.source j)
    (hasked : world'.asked = world.asked)
    (hstored : world.stored ⊆ world'.stored) :
    AnsweredBy users world' j i value := by
  obtain ⟨hj, hmem, hsame, hscope⟩ := h
  refine ⟨hsource.trans hj, hstored hmem, ?_, hscope⟩
  rw [hasked]
  exact hsame

theorem Traced.entries (h : Traced sha256 configs users world views) (c : C) :
    (world.entries configs c).All
      (fun key entry => Backed sha256 users world key entry ∧
        Shares configs c (users entry.storedBy).cache)
      (fun key entry => Backed sha256 users world key entry ∧
        (configs c).persistDir ≠ "" ∧ (configs c).persistDir =
          (configs (users entry.storedBy).cache).persistDir) where
  memory := h.memory c
  files := h.disk (configs c).persistDir

theorem shared_file (c : C) (key : String) (entry : CacheEntry I)
    (h : Backed sha256 users world key entry ∧
      (configs c).persistDir ≠ "" ∧ (configs c).persistDir =
        (configs (users entry.storedBy).cache).persistDir) :
    Backed sha256 users world key entry ∧
      Shares configs c (users entry.storedBy).cache :=
  ⟨h.1, Or.inr h.2⟩

theorem sharingCalls_traced : (sharingCalls users sha256).Follows
    (fun i => cacheProtocol sha256 (users i).scope)
    (fun _ out view => HandsOn out.1 view)
    (Traced sha256 configs users) := by
  refine ⟨fun i => { request := (users i).request }, ?_, ?_⟩
  · constructor
    · intro i
      rfl
    · intro c key entry hentry
      cases hentry
    · intro directory key entry hentry
      cases hentry
    · intro i value hvalue
      cases hvalue
    · intro j value hvalue
      cases hvalue
  · intro i
    exact chat_cached sha256 (users i).gateway (users i).request

theorem Traced.setEntries [DecidableEq C]
    (h : Traced sha256 configs users world views)
    (c : C) {entries : Entries I} (stored : List (I × Response))
    (hstored : ∀ i value, (i, value) ∈ stored → (views i).looked = true)
    (hmono : world.stored ⊆ stored)
    (hentries : entries.All
      (fun key entry =>
        Backed sha256 users { world with stored } key entry ∧
          Shares configs c (users entry.storedBy).cache)
      (fun key entry =>
        Backed sha256 users { world with stored } key entry ∧
          (configs c).persistDir ≠ "" ∧ (configs c).persistDir =
            (configs (users entry.storedBy).cache).persistDir)) :
    Traced sha256 configs users
      { world.setEntries configs c entries with stored } views where
  asked := h.asked
  stored := hstored
  memory := by
    intro c' key entry hentry
    by_cases hc : c' = c
    · subst hc
      have hmem : (key, entry) ∈ entries.memory := by
        simpa [CacheWorld.setEntries] using hentry
      obtain ⟨hbacked, hshares⟩ := hentries.memory key entry hmem
      exact ⟨hbacked.mono rfl (List.Subset.refl _), hshares⟩
    · have hmem : (key, entry) ∈ world.memory c' := by
        simpa [CacheWorld.setEntries, hc] using hentry
      obtain ⟨hbacked, hshares⟩ := h.memory c' key entry hmem
      exact ⟨hbacked.mono rfl hmono, hshares⟩
  disk := by
    intro directory key entry hentry
    by_cases hd : directory = (configs c).persistDir
    · subst hd
      have hmem : (key, entry) ∈ entries.files := by
        simpa [CacheWorld.setEntries] using hentry
      obtain ⟨hbacked, hdir⟩ := hentries.files key entry hmem
      exact ⟨hbacked.mono rfl (List.Subset.refl _), hdir⟩
    · have hmem : (key, entry) ∈ world.disk directory := by
        simpa [CacheWorld.setEntries, hd] using hentry
      obtain ⟨hbacked, hdir⟩ := h.disk directory key entry hmem
      exact ⟨hbacked.mono rfl hmono, hdir⟩
  found := by
    intro j value hvalue
    obtain ⟨hlooked, i, hanswered⟩ := h.found j value hvalue
    exact ⟨hlooked, i, hanswered.mono rfl rfl hmono⟩

theorem Traced.store [DecidableEq C] {access : Nat → Access}
    (h : Traced sha256 configs users world views) {i : I} {key : String}
    (value : Response) (hview : (views i).looked = true)
    (hkey : key = cacheKey sha256 (views i).request (users i).scope) :
    Traced sha256 configs users
      (world.store configs users access i key value).2 views := by
  unfold CacheWorld.store
  dsimp only
  split
  · exact h
  · next entries hset =>
      have hmono : world.stored ⊆ (i, value) :: world.stored :=
        List.subset_cons_self _ _
      have hentry : ∀ expiresAt, Backed sha256 users
          { world with stored := (i, value) :: world.stored } key
          { expiresAt, value, storedBy := i } := by
        intro expiresAt
        refine ⟨List.mem_cons_self, ?_⟩
        rw [hkey, ← h.asked]
      apply h.setEntries (users i).cache _ _ hmono
      · refine set_all (configs (users i).cache) (access world.accesses) key
          ⟨?_, ?_⟩ ?_ ?_ hset
        · intro other entry hmem
          obtain ⟨hbacked, hshares⟩ := h.memory _ other entry hmem
          exact ⟨hbacked.mono rfl hmono, hshares⟩
        · intro other entry hmem
          obtain ⟨hbacked, hdir⟩ := h.disk _ other entry hmem
          exact ⟨hbacked.mono rfl hmono, hdir⟩
        · exact fun expiresAt => ⟨hentry expiresAt, Or.inl rfl⟩
        · exact fun hdir expiresAt => ⟨hentry expiresAt, hdir, rfl⟩
      · intro k stored hmem
        rcases List.mem_cons.mp hmem with hmem | hmem
        · cases hmem
          exact hview
        · exact h.stored k stored hmem

variable [DecidableEq I]

/-- Call `i` has looked up its key. -/
theorem Traced.looked (h : Traced sha256 configs users world views) {i : I}
    (hview : (views i).looked = false) {found : Option Response}
    {source : I → Option I}
    (hsource : ∀ j, j ≠ i → source j = world.source j)
    (hfound : ∀ value, found = some value →
      ∃ k, AnsweredBy users { world with source } i k value) :
    Traced sha256 configs users { world with source }
      (Function.update views i { views i with looked := true, found }) where
  asked := by
    intro j
    by_cases hj : j = i
    · subst hj
      rw [Function.update_self]
      exact h.asked j
    · rw [Function.update_of_ne hj]
      exact h.asked j
  memory := by
    intro c key entry hentry
    obtain ⟨hbacked, hshares⟩ := h.memory c key entry hentry
    exact ⟨hbacked.mono rfl (List.Subset.refl _), hshares⟩
  disk := by
    intro directory key entry hentry
    obtain ⟨hbacked, hdir⟩ := h.disk directory key entry hentry
    exact ⟨hbacked.mono rfl (List.Subset.refl _), hdir⟩
  stored := by
    intro j value hvalue
    by_cases hj : j = i
    · subst hj
      rw [Function.update_self]
    · rw [Function.update_of_ne hj]
      exact h.stored j value hvalue
  found := by
    intro j value hvalue
    by_cases hj : j = i
    · subst hj
      rw [Function.update_self] at hvalue ⊢
      exact ⟨rfl, hfound value hvalue⟩
    · rw [Function.update_of_ne hj] at hvalue ⊢
      obtain ⟨hlooked, k, hanswered⟩ := h.found j value hvalue
      exact ⟨hlooked, k,
        hanswered.mono (hsource j hj) rfl (List.Subset.refl _)⟩

/-- Call `i` is rerouted, which it is before it looks up its key. -/
theorem Traced.rerouted (h : Traced sha256 configs users world views) {i : I}
    (hview : (views i).looked = false) {request request' : Request}
    (hrequest : request = request') :
    Traced sha256 configs users
      { world with asked := Function.update world.asked i request }
      (Function.update views i { views i with request := request' }) := by
  subst hrequest
  -- whoever has stored a result is another call
  have hother : ∀ k value, (k, value) ∈ world.stored → k ≠ i := by
    rintro k value hmem rfl
    rw [h.stored k value hmem] at hview
    cases hview
  have hbacked : ∀ key entry, Backed sha256 users world key entry →
      Backed sha256 users
        { world with asked := Function.update world.asked i request } key
        entry := by
    intro key entry hentry
    refine ⟨hentry.stored, ?_⟩
    dsimp only
    rw [Function.update_of_ne (hother _ _ hentry.stored)]
    exact hentry.key
  constructor
  · intro j
    by_cases hj : j = i
    · subst hj
      simp only [Function.update_self]
    · simp only [Function.update_of_ne hj]
      exact h.asked j
  · intro c key entry hentry
    obtain ⟨hentry', hshares⟩ := h.memory c key entry hentry
    exact ⟨hbacked key entry hentry', hshares⟩
  · intro directory key entry hentry
    obtain ⟨hentry', hdir⟩ := h.disk directory key entry hentry
    exact ⟨hbacked key entry hentry', hdir⟩
  · intro j value hvalue
    rw [Function.update_of_ne (hother j value hvalue)]
    exact h.stored j value hvalue
  · intro j value hvalue
    have hj : j ≠ i := by
      rintro rfl
      rw [Function.update_self] at hvalue
      rw [(h.found j value hvalue).1] at hview
      cases hview
    rw [Function.update_of_ne hj] at hvalue ⊢
    obtain ⟨hlooked, k, hsource, hmem, hsame, hscope⟩ := h.found j value hvalue
    refine ⟨hlooked, k, hsource, hmem, ?_, hscope⟩
    dsimp only
    rw [Function.update_of_ne (hother k value hmem), Function.update_of_ne hj]
    exact hsame

variable [DecidableEq C] {access : Nat → Access}

theorem Traced.lookup (hsha : Function.Injective sha256)
    (h : Traced sha256 configs users world views) {i : I} {key : String}
    (hview : (views i).looked = false)
    (hkey : key = cacheKey sha256 (views i).request (users i).scope)
    (htells : KeyTells configs users world i (.cacheGet key)) :
    Traced sha256 configs users (world.lookup configs users access i key).2
      (Function.update views i ((views i).next (.cacheGet key)
        (world.lookup configs users access i key).1)) := by
  obtain ⟨hentries, hfound⟩ := get_all (configs (users i).cache)
    (access world.accesses) key (shared_file (users i).cache)
    (h.entries (users i).cache)
  have hnext := h.setEntries (users i).cache world.stored h.stored
    (List.Subset.refl _) hentries
  unfold CacheWorld.lookup
  cases hout : ((configs (users i).cache).get (access world.accesses) key
      (world.entries configs (users i).cache)).1 with
  | none =>
      dsimp only
      rw [hout]
      exact hnext.looked hview (fun _ _ => rfl) fun value hvalue =>
        nomatch hvalue
  | some entry =>
      dsimp only
      rw [hout]
      obtain ⟨hbacked, hshares⟩ := hfound entry hout
      have hkeys := hbacked.key.symm.trans hkey
      rw [← h.asked] at hkeys
      obtain ⟨hkeyed, hscope⟩ := cacheKey_inj hsha hkeys
      refine hnext.looked hview (fun j hj => Function.update_of_ne hj _ _) ?_
      intro value hvalue
      cases hvalue
      refine ⟨entry.storedBy, Function.update_self _ _ _, hbacked.stored, ?_,
        hscope⟩
      exact hkeyed.parameters
        (htells _ _ hbacked.stored hshares hscope hkeyed)

theorem caches_serve (hsha : Function.Injective sha256) :
    Pool.Serves (fun i => cacheProtocol sha256 (users i).scope)
      (CacheWorld.serve configs users access) (KeyTells configs users)
      (Traced sha256 configs users) := by
  intro world views i op reply h hallow htells
  refine ⟨trivial, ?_⟩
  have hsame : Traced sha256 configs users world
      (Function.update views i (views i)) := by
    rw [Function.update_eq_self]
    exact h
  cases op with
  | cacheGet key => exact h.lookup hsha hallow.1 hallow.2 htells
  | cacheSet key value =>
      change Traced sha256 configs users _
        (Function.update views i (views i))
      rw [Function.update_eq_self]
      exact h.store value hallow.1 hallow.2
  | warnRerouted provider alternative =>
      exact h.rerouted hallow
        (congrArg (fun request => request.reroutedTo alternative) (h.asked i))
  | _ => exact hsame

theorem SameUnkeyed.trans {a b c : Request} (h : SameUnkeyed a b)
    (h' : SameUnkeyed b c) : SameUnkeyed a c where
  system := h.system.trans h'.system
  tools := h.tools.trans h'.tools
  temperature := h.temperature.trans h'.temperature
  maxTokens := h.maxTokens.trans h'.maxTokens

theorem SameUnkeyed.symm {a b : Request} (h : SameUnkeyed a b) :
    SameUnkeyed b a where
  system := h.system.symm
  tools := h.tools.symm
  temperature := h.temperature.symm
  maxTokens := h.maxTokens.symm

theorem serve_sameUnkeyed {world : CacheWorld I C} (i : I) (op : GatewayOp)
    (reply : GatewayReply op) (j : I) :
    SameUnkeyed ((world.serve configs users access i op reply).2.asked j)
      (world.asked j) := by
  have hsame : ∀ request : Request, SameUnkeyed request request :=
    fun _ => ⟨rfl, rfl, rfl, rfl⟩
  cases op with
  | cacheGet key =>
      simp only [CacheWorld.serve, CacheWorld.lookup]
      split <;> exact hsame _
  | cacheSet key value =>
      simp only [CacheWorld.serve, CacheWorld.store]
      split <;> exact hsame _
  | warnRerouted provider alternative =>
      by_cases hj : j = i
      · subst hj
        simp only [CacheWorld.serve, Function.update_self]
        exact ⟨rfl, rfl, rfl, rfl⟩
      · simp only [CacheWorld.serve, Function.update_of_ne hj]
        exact hsame _
  | _ => exact hsame _

theorem uniform_meets
    (huniform : ∀ i j, SameUnkeyed (users i).request (users j).request)
    (schedule : List (I × GatewayOracle)) :
    (sharingCalls users sha256).Meets
      (CacheWorld.serve configs users access) (KeyTells configs users)
      schedule := by
  apply Pool.meets_of_kept (J := fun world : CacheWorld I C =>
    ∀ i, SameUnkeyed (world.asked i) (users i).request)
  · exact fun i => ⟨rfl, rfl, rfl, rfl⟩
  · intro world i op reply h j
    exact (serve_sameUnkeyed i op reply j).trans (h j)
  · intro world j op h
    cases op with
    | cacheGet key =>
        intro i value _ _ _ _
        exact ((h i).trans (huniform i j)).trans (h j).symm
    | _ => trivial

end Sharing

namespace CacheWitness

def gateway : AIGateway where
  fallback := { enabled := false }
  dlp := { secretPatterns := [], piiPatterns := [] }

def question : Request where
  messages :=
    [.dict [("role", .str "user"), ("content", .str "do it")]]
  model := "m"
  provider := "mimo"

def keyText : List Char :=
  ("\x7b\"extra\": \"\x7b\x7d\", \"messages\": [\x7b\"content\": " ++
    "\"do it\", \"role\": \"user\"\x7d], \"model\": \"m\", " ++
    "\"provider\": \"mimo\", \"scope\": \"\", \"system\": " ++
    "\"\"\x7d").toList

def sha256 (text : List Char) : String :=
  if text = keyText then
    "d5b79de9525d1eb0491558911193fe1fc83f8085c8def3104553b99e2aa0d2bc"
  else "x" ++ String.ofList text

def users (first second : Request) (i : Bool) : CacheUser Unit :=
  { gateway, request := if i then second else first, cache := () }

def oracle : GatewayOracle
  | .healthy _ => true
  | .markUnhealthy _ _ => ()
  | .warnRerouted _ _ => ()
  | .call _ _ _ => .ok { content := some "answer" }
  | .cacheGet _ => none
  | .cacheSet _ _ => .ok ()
  | .requestsInLastMinute => 0
  | .recordRequest _ _ _ _ => ()
  | .spendCheck _ _ => true
  | .spendRecord _ _ => ()

def inTurn (first second : Request) :
    Pool GatewayOp GatewayReply Bool (CacheWorld Bool Unit)
      (fun _ => Except String Response × Unit) :=
  (sharingCalls (users first second) sha256).run
    (CacheWorld.serve (fun _ => {}) (users first second) fun _ => {})
    (List.replicate 12 (false, oracle) ++ List.replicate 12 (true, oracle))

def result? : Prog GatewayOp GatewayReply (Except String Response × Unit) →
    Option Response
  | .done (.ok response, ()) => some response
  | _ => none

theorem done_of_result?
    {prog : Prog GatewayOp GatewayReply (Except String Response × Unit)}
    {response : Response} (h : result? prog = some response) :
    prog = .done (.ok response, ()) := by
  unfold result? at h
  split at h
  · cases h
    rfl
  · cases h

def withTools : Request :=
  { question with tools := some [.dict [("name", .str "search")]] }

example : dumpsSorted (keyDocument question "") = keyText := by
  decide +kernel

theorem digest_ne (text : List Char) :
    "d5b79de9525d1eb0491558911193fe1fc83f8085c8def3104553b99e2aa0d2bc" ≠
      "x" ++ String.ofList text := by
  intro h
  have hhead := congrArg (fun s => s.toList.head?) h
  simp at hhead

theorem sha256_injective : Function.Injective sha256 := by
  intro s t h
  unfold sha256 at h
  split at h <;> rename_i hs <;> split at h <;> rename_i ht
  · rw [hs, ht]
  · exact (digest_ne t h).elim
  · exact (digest_ne s h.symm).elim
  · have hlists := congrArg String.toList h
    simpa using hlists

end CacheWitness

end Voly.Gateway
