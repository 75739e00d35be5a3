import TagDispatch.Proofs.Clauses
import TagDispatch.Proofs.Protocol

/-!
# Branches that are built on demand

The further branches of a conditional are built one at a time. At its turn an entry is built and
then tried, so what its construction does comes after everything that the entries before it did,
and entries after one that fires are not built at all.

Whether branches are built on demand or all of them ahead shows only where their construction and
the other code meet in the state. `Independent` says that they do not; then the two orders have the
same result, and the same log apart from what the constructions write. The comparison goes entry by
entry: the state that is reached on demand and the one that is reached after all constructions
agree on what the other code reads, and what the entries to come read is as it was at the start.
-/

namespace TagDispatch

variable {ε σ α β R O κ ω : Type}

/-! ## What code reads and keeps -/

/-- Two runs end alike, in states with the same view, and with the same log apart from some
entries. -/
structure Run.Alike (view : σ → ω) (own : Entry ε → Bool) (r r' : Run ε σ α) : Prop where
  ending_eq : r.ending = r'.ending
  view_eq : view r.state = view r'.state
  log_eq : r.log.filter (!own ·) = r'.log.filter (!own ·)

namespace Act

/-- The ending of the code is decided by a view of the state. -/
def DecidedBy (view : σ → ω) (x : Act ε σ α) : Prop :=
  ∀ s t, view s = view t → (x s).ending = (x t).ending

/-- The code reads nothing but a view of the state: its ending, what it writes, and what becomes of
the view are decided by the view. -/
def ReadsOnly (view : σ → ω) (x : Act ε σ α) : Prop :=
  ∀ s t, view s = view t →
    (x s).ending = (x t).ending ∧ view (x s).state = view (x t).state ∧ (x s).log = (x t).log

/-- The code does not change a view of the state. -/
def Keeps (view : σ → ω) (x : Act ε σ α) : Prop := ∀ s, view (x s).state = view s

/-- The code writes only some entries. -/
def WritesOnly (own : Entry ε → Bool) (x : Act ε σ α) : Prop := ∀ s, ∀ entry ∈ (x s).log, own entry

/-- The same code, but it writes nothing. -/
def silently (x : Act ε σ α) : Act ε σ α := fun s => { x s with log := [] }

end Act

open Act

namespace Run.Alike

variable {view : σ → ω} {own : Entry ε → Bool} {s t : σ}

theorem symm {r r' : Run ε σ α} (h : Alike view own r r') : Alike view own r' r :=
  ⟨h.ending_eq.symm, h.view_eq.symm, h.log_eq.symm⟩

/-- Entries that do not count may stand ahead of a run. -/
theorem after {r r' : Run ε σ α} (h : Alike view own r r') {log : List (Entry ε)}
    (hlog : ∀ entry ∈ log, own entry) : Alike view own (r.after log) r' where
  ending_eq := h.ending_eq
  view_eq := h.view_eq
  log_eq := by
    have hnone : log.filter (!own ·) = [] := by
      simpa [List.filter_eq_nil_iff] using hlog
    rw [Run.after_log, List.filter_append, hnone, List.nil_append, h.log_eq]

/-- Sequences run alike if their first parts do, and what follows the same result. -/
theorem bind {x y : Act ε σ α} (h : Alike view own (x s) (y t)) {f g : α → Act ε σ β}
    (hf : ∀ a, (x s).ending = .done a → Alike view own (f a (x s).state) (g a (y t).state)) :
    Alike view own ((x >>= f) s) ((y >>= g) t) := by
  obtain ⟨hending, hview, hlog⟩ := h
  rw [bind_eq_follow, bind_eq_follow]
  unfold Run.follow
  rw [← hending]
  cases hx : (x s).ending with
  | done a =>
    obtain ⟨hending', hview', hlog'⟩ := hf a hx
    refine ⟨hending', hview', ?_⟩
    rw [Run.after_log, Run.after_log, List.filter_append, List.filter_append, hlog, hlog']
  | panicked text => exact ⟨rfl, hview, hlog⟩
  | defective e => exact ⟨rfl, hview, hlog⟩

end Run.Alike

namespace Act

variable {view : σ → ω} {own : Entry ε → Bool}

theorem readsOnly_iff {x : Act ε σ α} :
    x.ReadsOnly view ↔ ∀ s t, view s = view t → Run.Alike view (fun _ => false) (x s) (x t) := by
  refine ⟨fun h s t hst => ?_, fun h s t hst => ?_⟩
  · obtain ⟨hending, hview, hlog⟩ := h s t hst
    exact ⟨hending, hview, by rw [hlog]⟩
  · obtain ⟨hending, hview, hlog⟩ := h s t hst
    exact ⟨hending, hview, by simpa using hlog⟩

theorem ReadsOnly.alike {x : Act ε σ α} (h : x.ReadsOnly view) (own : Entry ε → Bool) {s t : σ}
    (hst : view s = view t) : Run.Alike view own (x s) (x t) := by
  obtain ⟨hending, hview, hlog⟩ := h s t hst
  exact ⟨hending, hview, by rw [hlog]⟩

theorem readsOnly_compositional (view : σ → ω) :
    Compositional fun _ (x : Act ε σ _) => x.ReadsOnly view where
  ofResult _ _ _ hst := ⟨rfl, hst, rfl⟩
  ofBind hx hf := readsOnly_iff.mpr fun s t hst =>
    (readsOnly_iff.mp hx s t hst).bind fun a _ =>
      readsOnly_iff.mp (hf a) _ _ (hx s t hst).2.1

theorem keeps_compositional (view : σ → ω) :
    Compositional fun _ (x : Act ε σ _) => x.Keeps view where
  ofResult _ _ := rfl
  ofBind {_ _ x f} hx hf s := by
    rw [bind_eq_follow]
    unfold Run.follow
    cases (x s).ending with
    | done a => exact (hf a _).trans (hx s)
    | panicked text => exact hx s
    | defective e => exact hx s

theorem writesOnly_compositional (own : Entry ε → Bool) :
    Compositional fun _ (x : Act ε σ _) => x.WritesOnly own where
  ofResult a s := by simp
  ofBind hx hf s entry hentry := by
    rcases mem_log_bind hentry with hlog | ⟨a, s', hlog⟩
    · exact hx s entry hlog
    · exact hf a s' entry hlog

end Act

/-! ## Branches -/

namespace Branch

variable {Q : (α : Type) → Act ε σ α → Prop}

theorem offer_of_code (hQ : Compositional Q) {branch : Branch ε σ R} (h : branch.PartsIn Q) :
    Q _ branch.offer := by
  cases branch with
  | plain holds body => exact hQ.ofResult _
  | bound found body => exact hQ.ofResult _
  | guarded found guard body =>
    cases found with
    | false => exact hQ.ofResult none
    | true => exact provided_of_code hQ h.1 body

theorem offer_givesIn {branch : Branch ε σ R} (h : branch.PartsIn Q) : GivesIn Q branch.offer := by
  have hif : ∀ {b : Bool} {body : Act ε σ R}, Q R body →
      GivesIn Q (pure (if b then some body else none) : Act ε σ (Option (Act ε σ R))) := by
    intro b body hbody
    refine pure_givesIn fun given hgiven => ?_
    cases b <;> cases hgiven
    exact hbody
  cases branch with
  | plain holds body => exact hif h
  | bound found body => exact hif h
  | guarded found guard body =>
    cases found with
    | false => exact pure_givesIn (by simp)
    | true => exact provided_givesIn h.2

/-- To build all branches has every compositional property that it has to build each. -/
theorem buildAll_of_code (hQ : Compositional Q) {builds : List (Act ε σ (Branch ε σ R))}
    (h : ∀ build ∈ builds, Q _ build) : Q _ (buildAll builds) := by
  induction builds with
  | nil => exact hQ.ofResult []
  | cons build rest ih =>
    obtain ⟨hbuild, hrest⟩ := List.forall_mem_cons.mp h
    exact hQ.ofBind hbuild fun branch => hQ.ofBind (ih hrest) fun branches => hQ.ofResult _

/-- What is built already is only tried. -/
theorem map_turn_built (branches : List (Branch ε σ R)) :
    (built branches).map turn = branches.map offer := by
  rw [built, List.map_map]
  exact List.map_congr_left fun branch _ => pure_bind branch offer

end Branch

/-- The conditional, entered after all its further branches are built. -/
def Clause.eager (primary : Clause ε σ R) (builds : List (Act ε σ (Branch ε σ R)))
    (completion : Completion ε σ R O) : Act ε σ O := do
  let branches ← Branch.buildAll builds
  primary.conditional (Branch.built branches) completion

/-! ## Independence -/

/-- An entry that is to be built, and what its construction reads of the state. -/
structure Planned (ε σ R κ : Type) where
  build : Act ε σ (Branch ε σ R)
  reads : σ → κ

/-- The code reads nothing but a view of the state, and changes nothing that the construction of an
entry reads. -/
structure Apart (view : σ → ω) (entries : List (Planned ε σ R κ)) (α : Type) (x : Act ε σ α) :
    Prop where
  readsOnly : x.ReadsOnly view
  keeps : ∀ entry ∈ entries, x.Keeps entry.reads

/-- The construction of the entries and the other code of a conditional are independent from a
state. -/
structure Independent (view : σ → ω) (primary : Clause ε σ R) (entries : List (Planned ε σ R κ))
    (completion : Completion ε σ R O) (s : σ) : Prop where
  /-- No construction panics, and the branches that are built are of the other code. -/
  succeeds : ∀ entry ∈ entries, ∃ branch, (entry.build s).ending = .done branch ∧
    branch.PartsIn (Apart view entries)
  /-- What is built is decided by what the construction reads. -/
  decided : ∀ entry ∈ entries, entry.build.DecidedBy entry.reads
  /-- No construction changes what the other code reads. -/
  keeps : ∀ entry ∈ entries, entry.build.Keeps view
  /-- No construction changes what a later one reads. -/
  pairwise : entries.Pairwise fun earlier later => earlier.build.Keeps later.reads
  primary : primary.CodeIn (Apart view entries)
  completion : ∀ fired, Apart view entries O (completion.complete fired)

theorem apart_compositional (view : σ → ω) (entries : List (Planned ε σ R κ)) :
    Compositional (Apart view entries) where
  ofResult a :=
    { readsOnly := (readsOnly_compositional view).ofResult a
      keeps := fun entry _ => (keeps_compositional entry.reads).ofResult a }
  ofBind hx hf :=
    { readsOnly := (readsOnly_compositional view).ofBind hx.readsOnly fun a => (hf a).readsOnly
      keeps := fun entry hentry => (keeps_compositional entry.reads).ofBind
        (hx.keeps entry hentry) fun a => (hf a).keeps entry hentry }

/-- The entry, with a construction that writes nothing. -/
def Planned.silent (entry : Planned ε σ R κ) : Planned ε σ R κ :=
  { entry with build := entry.build.silently }

/-- It is foreseen from a state which branches the entries give: each is built from every state that
has what its construction reads, and neither its construction nor its guard changes what the
others need. -/
inductive Foreseen (view : σ → ω) (s : σ) :
    List (Planned ε σ R κ) → List (Branch ε σ R) → Prop
  | nil : Foreseen view s [] []
  | cons {entry : Planned ε σ R κ} {branch : Branch ε σ R} {rest : List (Planned ε σ R κ)}
      {branches : List (Branch ε σ R)}
      (hgives : ∀ t, entry.reads t = entry.reads s → (entry.build t).ending = .done branch)
      (hkeeps : entry.build.Keeps view) (hoffer : branch.offer.ReadsOnly view)
      (hgiven : branch.offer.GivesIn fun _ x => x.ReadsOnly view)
      (hlater : ∀ later ∈ rest, entry.build.Keeps later.reads ∧ branch.offer.Keeps later.reads)
      (hrest : Foreseen view s rest branches) :
      Foreseen view s (entry :: rest) (branch :: branches)

namespace Foreseen

variable {view : σ → ω} {s t t' : σ} {entries : List (Planned ε σ R κ)}
  {branches : List (Branch ε σ R)}

theorem silent (h : Foreseen view s entries branches) :
    Foreseen view s (entries.map Planned.silent) branches := by
  induction h with
  | nil => exact .nil
  | cons hgives hkeeps hoffer hgiven hlater _ ih =>
    exact .cons hgives hkeeps hoffer hgiven (List.forall_mem_map.mpr hlater) ih

/-- From a state that has what the constructions read, all branches are built. -/
theorem buildAll_ending (h : Foreseen view s entries branches)
    (ht : ∀ entry ∈ entries, entry.reads t = entry.reads s) :
    (Branch.buildAll (entries.map Planned.build) t).ending = .done branches := by
  induction h generalizing t with
  | nil => rfl
  | @cons entry branch rest branches hgives _ _ _ hlater _ ih =>
    obtain ⟨hentry, hrest⟩ := List.forall_mem_cons.mp ht
    have hbuilt := ih (t := (entry.build t).state) fun later hmem =>
      ((hlater later hmem).1 t).trans (hrest later hmem)
    rw [List.map_cons, Branch.buildAll, bind_eq_after (hgives t hentry), bind_eq_after hbuilt]
    rfl

/-- Built ahead, the conditional runs over the branches from the state after all constructions. -/
theorem eager_eq (h : Foreseen view s entries branches) (primary : Clause ε σ R)
    (completion : Completion ε σ R O) :
    primary.eager (entries.map Planned.build) completion s =
      (primary.conditional (Branch.built branches) completion
        (Branch.buildAll (entries.map Planned.build) s).state).after
          (Branch.buildAll (entries.map Planned.build) s).log := by
  rw [Clause.eager, bind_eq_after (h.buildAll_ending fun _ _ => rfl)]

/-- To search among the entries is like searching among the branches that they give, from states
that agree on the view. -/
theorem search_alike (h : Foreseen view s entries branches) {own : Entry ε → Bool}
    (hown : ∀ entry ∈ entries, entry.build.WritesOnly own)
    {f : Option (Act ε σ R) → Act ε σ O} (hnone : (f none).ReadsOnly view)
    (hsome : ∀ body, body.ReadsOnly view → (f (some body)).ReadsOnly view)
    (ht : ∀ entry ∈ entries, entry.reads t = entry.reads s) (hview : view t = view t') :
    Run.Alike view own ((search ((entries.map Planned.build).map Branch.turn) >>= f) t)
      ((search (branches.map Branch.offer) >>= f) t') := by
  induction h generalizing t t' with
  | nil => exact hnone.alike own hview
  | @cons entry branch rest branches hgives hkeeps hoffer hgiven hlater _ ih =>
    obtain ⟨hentry, hrest⟩ := List.forall_mem_cons.mp ht
    obtain ⟨hownEntry, hownRest⟩ := List.forall_mem_cons.mp hown
    rw [List.map_cons, List.map_cons, List.map_cons, search_cons_bind, search_cons_bind,
      Branch.turn, bind_assoc, bind_eq_after (hgives t hentry)]
    refine Run.Alike.after ?_ (hownEntry t)
    -- the construction has not touched the view, so the guard is asked alike
    have hbuilt : view (entry.build t).state = view t' := (hkeeps t).trans hview
    refine (hoffer.alike own hbuilt).bind fun given hending => ?_
    obtain ⟨-, hstates, -⟩ := hoffer _ _ hbuilt
    cases given with
    | some body => exact (hsome body (hgiven _ _ hending)).alike own hstates
    | none =>
      refine ih hownRest (fun later hmem => ?_) hstates
      obtain ⟨hbuild, hguard⟩ := hlater later hmem
      calc later.reads (branch.offer (entry.build t).state).state
          = later.reads (entry.build t).state := hguard _
        _ = later.reads t := hbuild t
        _ = later.reads s := hrest later hmem

/-- A conditional over the entries is like the one over the branches that they give, from states
that agree on the view. -/
theorem conditional_alike (h : Foreseen view s entries branches) {own : Entry ε → Bool}
    (hown : ∀ entry ∈ entries, entry.build.WritesOnly own) {primary : Clause ε σ R}
    {completion : Completion ε σ R O} (hturn : primary.turn.ReadsOnly view)
    (hbody : primary.turn.GivesIn fun _ x => x.ReadsOnly view)
    (hkept : ∀ entry ∈ entries, primary.turn.Keeps entry.reads)
    (hcompletion : ∀ fired, (completion.complete fired).ReadsOnly view) (hview : view s = view t) :
    Run.Alike view own (primary.conditional (entries.map Planned.build) completion s)
      (primary.conditional (Branch.built branches) completion t) := by
  have hsettle : ∀ body : Act ε σ R, body.ReadsOnly view →
      (completion.settle (some body)).ReadsOnly view := fun body hbody =>
    (readsOnly_compositional view).ofBind hbody fun r => hcompletion (some r)
  rw [Clause.conditional_eq_search, Clause.conditional_eq_search, search_cons_bind,
    search_cons_bind, Branch.map_turn_built]
  refine (hturn.alike own hview).bind fun given hending => ?_
  obtain ⟨-, hstates, -⟩ := hturn s t hview
  cases given with
  | some body => exact (hsettle body (hbody s body hending)).alike own hstates
  | none =>
    exact h.search_alike hown (hcompletion none) hsettle (fun entry hentry => hkept entry hentry s)
      hstates

end Foreseen

namespace Independent

variable {view : σ → ω} {primary : Clause ε σ R} {entries : List (Planned ε σ R κ)}
  {completion : Completion ε σ R O} {s t : σ} {branches : List (Branch ε σ R)}

theorem exists_foreseen (h : Independent view primary entries completion s) :
    ∃ branches, Foreseen view s entries branches := by
  -- the entries to come are among all entries, which the other code keeps to
  suffices hrest : ∀ rest : List (Planned ε σ R κ), (∀ entry ∈ rest, entry ∈ entries) →
      (rest.Pairwise fun earlier later => earlier.build.Keeps later.reads) →
      ∃ branches, Foreseen view s rest branches from
    hrest entries (fun _ hentry => hentry) h.pairwise
  intro rest hmem hpairwise
  induction rest with
  | nil => exact ⟨[], .nil⟩
  | cons entry rest ih =>
    obtain ⟨hentry, hlater⟩ := List.forall_mem_cons.mp hmem
    obtain ⟨hfirst, hothers⟩ := List.pairwise_cons.mp hpairwise
    obtain ⟨branches, hbranches⟩ := ih hlater hothers
    obtain ⟨branch, hbranch, hparts⟩ := h.succeeds entry hentry
    have hoffer := Branch.offer_of_code (apart_compositional view entries) hparts
    refine ⟨branch :: branches, .cons (fun t ht => ?_) (h.keeps entry hentry) hoffer.readsOnly
      (fun _ _ hgiven => ?_) (fun later hmem => ?_) hbranches⟩
    · rw [h.decided entry hentry t s ht, hbranch]
    · exact (Branch.offer_givesIn hparts _ _ hgiven).readsOnly
    · exact ⟨hfirst later hmem, hoffer.keeps later (hlater later hmem)⟩

/-- All constructions together leave what the other code reads as it is. -/
theorem view_buildAll (h : Independent view primary entries completion s) :
    view s = view (Branch.buildAll (entries.map Planned.build) s).state :=
  (Branch.buildAll_of_code (keeps_compositional view) (List.forall_mem_map.mpr h.keeps) s).symm

/-- On demand, entries that read what the planned ones do are like the branches that they give, from
the state after all constructions. -/
theorem conditional_alike (h : Independent view primary entries completion s)
    {others : List (Planned ε σ R κ)} (hforeseen : Foreseen view s others branches)
    (hreads : ∀ other ∈ others, ∃ entry ∈ entries, other.reads = entry.reads)
    {own : Entry ε → Bool} (hown : ∀ other ∈ others, other.build.WritesOnly own) :
    Run.Alike view own (primary.conditional (others.map Planned.build) completion s)
      (primary.conditional (Branch.built branches) completion
        (Branch.buildAll (entries.map Planned.build) s).state) := by
  have hturn := Clause.turn_of_code (apart_compositional view entries) h.primary
  have hbody : primary.turn.GivesIn fun _ x => x.ReadsOnly view := fun t body hending =>
    (Clause.turn_givesIn h.primary t body hending).readsOnly
  have hkept : ∀ other ∈ others, primary.turn.Keeps other.reads := by
    intro other hother
    obtain ⟨entry, hentry, hsame⟩ := hreads other hother
    exact hsame ▸ hturn.keeps entry hentry
  exact hforeseen.conditional_alike hown hturn.readsOnly hbody hkept
    (fun fired => (h.completion fired).readsOnly) h.view_buildAll

/-- Whether the entries are built on demand or ahead, the runs are alike apart from what the
constructions write. -/
theorem eager_alike (h : Independent view primary entries completion s) {own : Entry ε → Bool}
    (hown : ∀ entry ∈ entries, entry.build.WritesOnly own) :
    Run.Alike view own (primary.eager (entries.map Planned.build) completion s)
      (primary.conditional (entries.map Planned.build) completion s) := by
  obtain ⟨branches, hforeseen⟩ := h.exists_foreseen
  have halike := h.conditional_alike hforeseen (fun entry hentry => ⟨entry, hentry, rfl⟩) hown
  rw [hforeseen.eager_eq]
  refine halike.symm.after ?_
  exact Branch.buildAll_of_code (writesOnly_compositional own) (List.forall_mem_map.mpr hown) s

/-- Ahead, the constructions write first, and then the conditional what it writes on demand with
silent constructions. -/
theorem eager_log (h : Independent view primary entries completion s) :
    (primary.eager (entries.map Planned.build) completion s).log =
      (Branch.buildAll (entries.map Planned.build) s).log ++
        (primary.conditional ((entries.map Planned.build).map silently) completion s).log := by
  obtain ⟨branches, hforeseen⟩ := h.exists_foreseen
  have hwrites : ∀ entry ∈ entries.map Planned.silent, entry.build.WritesOnly fun _ => false :=
    List.forall_mem_map.mpr fun entry _ t => by simp [Planned.silent, silently]
  have halike := h.conditional_alike hforeseen.silent
    (List.forall_mem_map.mpr fun entry hentry => ⟨entry, hentry, rfl⟩) hwrites
  have hlog : (primary.conditional ((entries.map Planned.silent).map Planned.build) completion
      s).log = (primary.conditional (Branch.built branches) completion
        (Branch.buildAll (entries.map Planned.build) s).state).log := by
    simpa using halike.log_eq
  have hbuilds : (entries.map Planned.build).map silently =
      (entries.map Planned.silent).map Planned.build := by
    rw [List.map_map, List.map_map]
    rfl
  rw [hforeseen.eager_eq, Run.after_log, hbuilds, hlog]

end Independent

/-! ## On demand -/

namespace Clause

/-- After a primary clause that does not fire come the turns of the entries. -/
theorem conditional_of_passes {primary : Clause ε σ R} {s : σ}
    (h : (primary.turn s).ending = .done none) (builds : List (Act ε σ (Branch ε σ R)))
    (completion : Completion ε σ R O) :
    primary.conditional builds completion s =
      ((search (builds.map Branch.turn) >>= completion.settle) (primary.turn s).state).after
        (primary.turn s).log := by
  rw [conditional_eq_search, search_cons_bind, bind_eq_after h]

/-- **Branches on demand.** If the primary clause fires, nothing is built, and if its guard has no
answer, nothing follows. Else the entries take turns, in each of which an entry is built and then
tried, and those that have their turn are the first ones: if one fires, its body follows and
completes the conditional; if none does, all have been built, and the completion follows; and if the
construction or the guard of one has no result, nothing follows.

If the construction of the entries and the other code are independent, then the conditional whose
entries are all built ahead has the same result, and the same log apart from what the constructions
write: they write first, and then the conditional what it writes on demand with silent
constructions. -/
theorem branches_built_on_demand (primary : Clause ε σ R) (completion : Completion ε σ R O)
    (s : σ) :
    (∀ builds,
      (∀ body, (primary.turn s).ending = .done (some body) →
        primary.conditional builds completion s = (do
          let _ ← primary.turn
          let r ← body
          completion.complete (some r)) s) ∧
      ((∀ o, (primary.turn s).ending ≠ .done o) → ∀ next,
        primary.conditional builds completion s = (do
          let _ ← primary.turn
          next) s) ∧
      ((primary.turn s).ending = .done none →
        (∃ built outcome, TakeTurns Branch.turn builds (primary.turn s).state built outcome) ∧
        ∀ built outcome, TakeTurns Branch.turn builds (primary.turn s).state built outcome →
          built <+: builds ∧
          (∀ body, outcome = .given body →
            primary.conditional builds completion s = (do
              let _ ← primary.turn
              inTurn (built.map Branch.turn)
              let r ← body
              completion.complete (some r)) s) ∧
          (outcome = .nothing → built = builds ∧
            primary.conditional builds completion s = (do
              let _ ← primary.turn
              inTurn (built.map Branch.turn)
              completion.complete none) s) ∧
          (outcome = .cutShort → ∀ next,
            primary.conditional builds completion s = (do
              let _ ← primary.turn
              inTurn (built.map Branch.turn)
              next) s))) ∧
    ∀ {κ ω : Type} (view : σ → ω) (entries : List (Planned ε σ R κ)),
      Independent view primary entries completion s → ∀ builds, builds = entries.map Planned.build →
      (primary.eager builds completion s).ending =
          (primary.conditional builds completion s).ending ∧
        (primary.eager builds completion s).log = (Branch.buildAll builds s).log ++
          (primary.conditional (builds.map silently) completion s).log ∧
        ∀ own, (∀ build ∈ builds, build.WritesOnly own) →
          Run.Alike view own (primary.eager builds completion s)
            (primary.conditional builds completion s) := by
  refine ⟨fun builds => ⟨fun body hbody => ?_, fun hcut next => ?_,
    fun hpasses => ⟨exists_takeTurns _ builds _, fun built outcome h => ?_⟩⟩, ?_⟩
  · rw [conditional_eq_search, search_cons_bind, bind_eq_after hbody, bind_eq_after hbody]
    rfl
  · rw [conditional_eq_search, search_cons_bind]
    exact bind_congr_of_not_done hcut _ _
  · rw [conditional_of_passes hpasses]
    refine ⟨h.isPrefix_had, ?_, fun hnothing => ⟨h.had_eq hnothing, ?_⟩, ?_⟩
    · rintro body rfl
      rw [h.search_bind (.given body), bind_eq_after hpasses]
      rfl
    · subst hnothing
      rw [h.search_bind .nothing, bind_eq_after hpasses]
      rfl
    · rintro rfl next
      rw [h.search_bind (.cutShort next), bind_eq_after hpasses]
  · rintro κ ω view entries hindependent _ rfl
    have hall : Run.Alike view (fun _ => true)
        (primary.eager (entries.map Planned.build) completion s)
        (primary.conditional (entries.map Planned.build) completion s) :=
      hindependent.eager_alike fun _ _ _ _ _ => rfl
    exact ⟨hall.ending_eq, hindependent.eager_log, fun own hown =>
      hindependent.eager_alike (List.forall_mem_map.mp hown)⟩

end Clause

/-! ## Counters -/

/-- What guards count, what constructions count, and a limit that nothing changes. -/
structure Counters where
  asked : Nat
  built : Nat
  limit : Nat
deriving DecidableEq

namespace Counters

open Registry Script

/-- A guard that counts how often it is asked, and turns the first payload down. -/
def guard {P : Type} (_ : P) : Act String Counters Bool := do
  Act.write "asked"
  Act.update fun s => (s.asked = 1, { s with asked := s.asked + 1 })

/-- An entry whose construction counts, and reads the limit. -/
def entry (give : Nat → Branch String Counters Unit) : Planned String Counters Unit Nat where
  build := do
    Act.write "built"
    Act.update fun s => (give s.limit, { s with built := s.built + 1 })
  reads s := s.limit

def primary : Clause String Counters Unit :=
  .guarded Circles.seven (Circles.circle.pattern PayloadType.Val) guard fun _ => Act.write "primary"

/-- Entries of which the second fires: a plain one below the limit, and a guarded one. -/
def entries : List (Planned String Counters Unit Nat) :=
  [entry fun limit => .plain (limit < 5) (Act.write "plain"),
    entry fun _ => .ofGuard Circles.seven (Circles.circle.pattern PayloadType.Val) guard fun _ =>
      Act.write "guarded",
    entry fun limit => .plain (limit < 9) (Act.write "plain")]

def start : Counters := ⟨0, 0, 7⟩

theorem entries_forall {p : Planned String Counters Unit Nat → Prop} (h : ∀ give, p (entry give)) :
    ∀ e ∈ entries, p e := by
  simp [entries, h]

theorem apart_write (text : String) : Apart Counters.asked entries Unit (Act.write text) where
  readsOnly _ _ h := ⟨rfl, h, rfl⟩
  keeps _ _ _ := rfl

theorem apart_guard {P : Type} (x : P) : Apart Counters.asked entries Bool (guard x) := by
  refine (apart_compositional _ _).ofBind (apart_write _) fun _ => ⟨fun s t h => ?_, ?_⟩
  · exact ⟨by simp [Act.update, h], by simp [Act.update, h], rfl⟩
  · exact entries_forall fun give s => rfl

theorem decided (give : Nat → Branch String Counters Unit) :
    (entry give).build.DecidedBy (entry give).reads := by
  intro s t h
  exact congrArg (fun limit => Ending.done (give limit)) h

theorem independent :
    Independent Counters.asked primary entries (.orElse (Act.write "else")) start where
  succeeds := by
    have hguarded : (Branch.ofGuard Circles.seven (Circles.circle.pattern PayloadType.Val) guard
        fun _ => Act.write "guarded").PartsIn (Apart Counters.asked entries) :=
      ⟨apart_guard Circles.seven.payload, apart_write _⟩
    simp only [entries, List.forall_mem_cons]
    exact ⟨⟨_, rfl, apart_write _⟩, ⟨_, rfl, hguarded⟩, ⟨_, rfl, apart_write _⟩, by simp⟩
  decided := entries_forall decided
  keeps := entries_forall fun _ _ => rfl
  pairwise := List.pairwise_of_forall_mem_list <|
    entries_forall fun _ => entries_forall fun _ _ => rfl
  primary := ⟨apart_guard, fun _ => apart_write _⟩
  completion fired := by
    cases fired with
    | some r => exact (apart_compositional _ _).ofResult r
    | none => exact apart_write _

/-- What constructions write. -/
def own (written : Entry String) : Bool := written = .wrote "built"

theorem writesOnly (give : Nat → Branch String Counters Unit) :
    (entry give).build.WritesOnly own := by
  intro s written hwritten
  obtain rfl := List.mem_singleton.mp hwritten
  rfl

end Counters

theorem branches_built_on_demand_counters :
    Independent Counters.asked Counters.primary Counters.entries (.orElse (Act.write "else"))
      Counters.start ∧
    Counters.primary.conditional (Counters.entries.map Planned.build) (.orElse (Act.write "else"))
        Counters.start =
      ⟨.done (), ⟨2, 2, 7⟩,
        [.wrote "asked", .wrote "built", .wrote "built", .wrote "asked", .wrote "guarded"]⟩ ∧
    (Counters.primary.eager (Counters.entries.map Planned.build) (.orElse (Act.write "else"))
        Counters.start).ending = .done () ∧
    (Counters.primary.eager (Counters.entries.map Planned.build) (.orElse (Act.write "else"))
        Counters.start).log =
      [.wrote "built", .wrote "built", .wrote "built", .wrote "asked", .wrote "asked",
        .wrote "guarded"] ∧
    (Counters.primary.eager (Counters.entries.map Planned.build) (.orElse (Act.write "else"))
        Counters.start).log.filter (!Counters.own ·) =
      [.wrote "asked", .wrote "asked", .wrote "guarded"] := by
  obtain ⟨hdemand, heager⟩ := Clause.branches_built_on_demand Counters.primary
    (.orElse (Act.write "else")) Counters.start
  obtain ⟨-, -, hpasses⟩ := hdemand (Counters.entries.map Planned.build)
  obtain ⟨-, hgiven, -, -⟩ :=
    (hpasses rfl).2 _ (.given (Act.write "guarded")) (.pass rfl (.given rfl _))
  obtain ⟨hending, hlog, halike⟩ := heager _ _ Counters.independent _ rfl
  have hwrites : ∀ build ∈ Counters.entries.map Planned.build, build.WritesOnly Counters.own :=
    List.forall_mem_map.mpr (Counters.entries_forall Counters.writesOnly)
  exact ⟨Counters.independent, hgiven _ rfl, hending, hlog, (halike _ hwrites).log_eq⟩

end TagDispatch
