import QueryFrames.Proofs.Change
import QueryFrames.Proofs.Dedup

/-! What a union reads. Its fragment reads two frames through their aliases, and its dependencies are those of
both sides, then the sides themselves. The right side is written last and is always found under its alias. The
left side is found under its own unless the right one has the same, which then stands for the right side on both
sides of the union. -/

namespace QueryFrames

namespace Frame

/-- What a name stands for below a frame made of two. -/
theorem get?_lineageOf_pair (left right : Frame) (name : String) :
    Keyed.get? name (lineageOf [left, right]) =
      if right.name = name then some right
      else if left.name = name then some left
      else Keyed.get? name (Keyed.dedup (left.dependencies ++ right.dependencies)) := by
  have hwritten :
      [left, right].flatMap (·.dependencies) ++ [left, right].map (fun parent => (parent.name, parent)) =
      left.dependencies ++ right.dependencies ++ [(left.name, left)] ++ [(right.name, right)] := by
    simp
  rw [lineageOf, hwritten, Keyed.get?_dedup_concat, Keyed.get?_dedup_concat]

/-- What the aliases of two frames stand for below a frame made of both: for these frames, except that a shared
alias stands for the right one. -/
structure Resolves (union left right : Frame) : Prop where
  right_eq : Keyed.get? right.name union.dependencies = some right
  left_eq : Keyed.get? left.name union.dependencies = some (if left.name = right.name then right else left)

theorem resolves_of_lineageOf {union left right : Frame} (h : union.dependencies = lineageOf [left, right]) :
    union.Resolves left right where
  right_eq := by rw [h, get?_lineageOf_pair, if_pos rfl]
  left_eq := by
    rw [h, get?_lineageOf_pair, if_pos rfl]
    by_cases hname : left.name = right.name
    · rw [if_pos hname, if_pos hname.symm]
    · rw [if_neg hname, if_neg (Ne.symm hname)]

end Frame

theorem ColumnSplit.reconcile_eq_ok {left right : List String} {allowMissing : Bool} {split : ColumnSplit}
    (h : reconcile left right allowMissing = .ok split) : split = ofColumns left right := by
  rw [reconcile] at h
  split at h
  · exact (Except.ok.inj h).symm
  · cases h

namespace Workspace

variable {σ : Type} {workspace : Workspace σ} {left right union : Frame}

theorem perform_eq_ok_frame {outcome : Outcome σ Frame} :
    (answer .frame outcome).1 = .ok (.frame union) ↔ outcome.1 = .ok union := by
  rw [answer]
  cases outcome.1 <;> simp [Except.map]

/-- A union by name reads both frames in a fragment that is made from the columns that they are found to have. -/
theorem exists_columns_of_unionByName {allowMissing : Bool}
    (h : (workspace.unionByName left right allowMissing).1 = .ok union) :
    union.dependencies = Frame.lineageOf [left, right] ∧
      ∃ leftColumns rightColumns, (workspace.columns left).1 = .ok leftColumns ∧
        ((workspace.columns left).2.columns right).1 = .ok rightColumns ∧
          (ColumnSplit.ofColumns leftColumns rightColumns).unionFragment left.name right.name = .ok union.fragment := by
  rw [unionByName] at h
  split at h
  · cases h
  · split at h
    · cases h
    · next leftColumns second hleft =>
        split at h
        · cases h
        · next rightColumns third hright =>
            rw [compose.eq_def] at h
            split at h
            · next frame session hmade =>
                obtain ⟨split, hsplit, hmade⟩ := exists_of_bind_eq_ok hmade
                obtain ⟨fragment, hfragment, hmade⟩ := exists_of_bind_eq_ok hmade
                obtain ⟨-, hderived⟩ := Session.combine_eq_ok.mp hmade
                obtain rfl := Except.ok.inj h
                have hframe : frame = (Session.derive _ [left, right] fragment).1 := congrArg Prod.fst hderived.symm
                rw [ColumnSplit.reconcile_eq_ok hsplit] at hfragment
                rw [hframe, hleft]
                exact ⟨rfl, leftColumns, rightColumns, rfl, congrArg Prod.fst hright, hfragment⟩
            · cases h

/-- A union by name reads both frames in a fragment that selects from their aliases. -/
theorem unionByName_eq_ok {allowMissing : Bool}
    (h : (workspace.unionByName left right allowMissing).1 = .ok union) :
    union.dependencies = Frame.lineageOf [left, right] ∧
      ∃ split : ColumnSplit, split.unionFragment left.name right.name = .ok union.fragment := by
  obtain ⟨hdependencies, _, _, -, -, hfragment⟩ := exists_columns_of_unionByName h
  exact ⟨hdependencies, _, hfragment⟩

/-- A union of two frames of one session succeeds. Its fragment, as that of every union by name that succeeds,
reads both frames through their aliases, and these resolve to them. -/
theorem perform_union_resolves (workspace : Workspace σ) (left right : Frame)
    (hsession : left.id.session = right.id.session) :
    (∃ union, (workspace.perform (.union left right)).1 = .ok (.frame union) ∧
        union.fragment = Fragment.union left.name right.name ∧ union.Resolves left right) ∧
      ∀ allowMissing union, (workspace.perform (.unionByName left right allowMissing)).1 = .ok (.frame union) →
        (∃ split : ColumnSplit, split.unionFragment left.name right.name = .ok union.fragment) ∧
          union.Resolves left right := by
  constructor
  · have hunion : (workspace.session left.id.session).union left right =
        .ok ((workspace.session left.id.session).derive [left, right] (Fragment.union left.name right.name)) :=
      Session.combine_eq_ok.mpr ⟨hsession, rfl⟩
    have hperform : (workspace.perform (.union left right)).1 = .ok (.frame
        ((workspace.session left.id.session).derive [left, right] (Fragment.union left.name right.name)).1) := by
      rw [perform, perform_eq_ok_frame, hunion]
      rfl
    exact ⟨_, hperform, rfl, Frame.resolves_of_lineageOf rfl⟩
  · intro allowMissing union h
    obtain ⟨hdependencies, hfragment⟩ := unionByName_eq_ok (perform_eq_ok_frame.mp h)
    exact ⟨hfragment, Frame.resolves_of_lineageOf hdependencies⟩

end Workspace

namespace Sides

/-- Answers every statement with one column and no rows. -/
def oneColumn : Executor Unit :=
  fun _ state => (.ok ⟨[⟨"id", "INTEGER", .nullable, []⟩], []⟩, state)

def left : Derivation := ⟨⟨⟨0, 0⟩, "t", "SELECT 1 AS id", []⟩, true, []⟩

def right (name : String) : Derivation := ⟨⟨⟨0, 1⟩, name, "SELECT 2 AS id", []⟩, true, []⟩

def history (name : String) : History Unit :=
  History.mk ((Workspace.start oneColumn ()).openSession .bigQuery true).2 []
    |>.perform (.sqlAs 0 "SELECT 1 AS id" "t") []
    |>.perform (.sqlAs 0 "SELECT 2 AS id" name) []

theorem reached (name : String) : History.Reached oneColumn () (fun _ _ => True) (history name) := by
  refine .perform (.perform (.openSession .bigQuery true .start) ?_ trivial) ?_ trivial
  · exact .of_builder (s := 0) (by decide) rfl rfl
  · exact .of_builder (s := 0) Nat.zero_lt_one rfl rfl

/-- Two sides with aliases of their own, in both kinds of union. -/
theorem union_resolves_distinct :
    (∃ union, ((history "u").workspace.perform (.union left.frame (right "u").frame)).1 = .ok (.frame union) ∧
        Keyed.get? "t" union.dependencies = some left.frame ∧
          Keyed.get? "u" union.dependencies = some (right "u").frame) ∧
      ∃ union, ((history "u").workspace.perform (.unionByName left.frame (right "u").frame false)).1 =
          .ok (.frame union) ∧
        Keyed.get? "t" union.dependencies = some left.frame ∧
          Keyed.get? "u" union.dependencies = some (right "u").frame := by
  obtain ⟨⟨union, hunion, -, hresolves⟩, hbyName⟩ :=
    Workspace.perform_union_resolves (history "u").workspace left.frame (right "u").frame rfl
  refine ⟨⟨union, hunion, hresolves.left_eq, hresolves.right_eq⟩, _, rfl, ?_, ?_⟩
  · exact (hbyName false _ rfl).2.left_eq
  · exact (hbyName false _ rfl).2.right_eq

/-- With one alias for both sides the left one is lost. -/
theorem exists_union_without_left :
    ∃ (history : History Unit) (left right : Derivation) (union : Frame),
      History.Reached oneColumn () (fun _ _ => True) history ∧ left ∈ history.made ∧ right ∈ history.made ∧
        left.frame.id.session = right.frame.id.session ∧
          (history.workspace.perform (.union left.frame right.frame)).1 = .ok (.frame union) ∧
            Keyed.get? left.frame.name union.dependencies = some right.frame ∧ left.frame ≠ right.frame := by
  refine ⟨history "t", left, right "t", _, reached "t", List.mem_of_getElem? (i := 0) rfl,
    List.mem_of_getElem? (i := 1) rfl, rfl, rfl, rfl, ?_⟩
  intro heq
  exact absurd (congrArg (·.id.serial) heq) (by decide)

end Sides

end QueryFrames
