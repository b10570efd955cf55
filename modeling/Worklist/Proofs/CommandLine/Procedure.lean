import Worklist.CommandLine.Procedure
import Worklist.Proofs.Except

/-!
# One run of a procedure and two

What a procedure has done can be told from its steps. One that first only reads and then only prints
has printed nothing and changed no file when it fails. And two procedures that agree step by step
fail alike, even if they print different texts.
-/

namespace Worklist.CommandLine.Procedure

variable {ε α β γ δ : Type}

/-! ### Steps -/

theorem run_pure (x : α) (s : Session) : (pure x : Procedure ε α).run s = (.ok x, s) :=
  rfl

theorem run_bind (a : Procedure ε α) (next : α → Procedure ε β) (s : Session) :
    (a >>= next).run s = match a.run s with
      | (.ok x, s) => (next x).run s
      | (.error e, s) => (.error e, s) := by
  change (match a.run s with | (result, s) => ExceptT.bindCont next result s) = _
  rcases a.run s with ⟨e | x, s'⟩
  · rfl
  · rfl

theorem run_operate (change : FileTree → Except ε α × FileTree) (s : Session) :
    (operate change).run s = ((change s.files).1, { s with files := (change s.files).2 }) :=
  rfl

theorem run_ask (question : FileTree → Except ε α) (s : Session) :
    (ask question).run s = (question s.files, s) :=
  rfl

theorem run_ofExcept (result : Except ε α) (s : Session) :
    (ofExcept result).run s = (result, s) :=
  rfl

theorem run_warnUnless (holds : Bool) (w : Warning) (s : Session) :
    (warnUnless holds w : Procedure ε Unit).run s =
      (.ok (), if holds then s else { s with warnings := s.warnings ++ [w] }) :=
  rfl

/-! ### One run -/

/-- A procedure that changes no file and prints nothing, though it may warn. -/
def Reads (a : Procedure ε α) : Prop :=
  ∀ s, (a.run s).2.files = s.files ∧ (a.run s).2.output = s.output

/-- A procedure that never fails and does nothing but print. -/
def Prints (a : Procedure ε Unit) : Prop :=
  ∀ s, ∃ text, a.run s = (.ok (), { s with output := s.output ++ text })

/-- A procedure that changes no file and has printed nothing if it fails. -/
def Answers (a : Procedure ε Unit) : Prop :=
  ∀ s, (a.run s).2.files = s.files ∧ ∀ e, (a.run s).1 = .error e → (a.run s).2.output = s.output

variable {a : Procedure ε α} {next : α → Procedure ε β}

theorem reads_ask (question : FileTree → Except ε α) : (ask question).Reads :=
  fun _ => ⟨rfl, rfl⟩

theorem reads_ofExcept (result : Except ε α) : (ofExcept result).Reads :=
  fun _ => ⟨rfl, rfl⟩

theorem reads_warnUnless (holds : Bool) (w : Warning) :
    (warnUnless holds w : Procedure ε Unit).Reads := by
  intro s
  cases holds with
  | true => exact ⟨rfl, rfl⟩
  | false => exact ⟨rfl, rfl⟩

theorem Reads.bind (h : a.Reads) (hNext : ∀ x, (next x).Reads) : (a >>= next).Reads := by
  intro s
  rw [run_bind]
  obtain ⟨hFiles, hOutput⟩ := h s
  rcases hRun : a.run s with ⟨e | x, s'⟩
  all_goals rw [hRun] at hFiles hOutput
  · exact ⟨hFiles, hOutput⟩
  · obtain ⟨hFiles', hOutput'⟩ := hNext x s'
    exact ⟨hFiles'.trans hFiles, hOutput'.trans hOutput⟩

theorem prints_pure : (pure () : Procedure ε Unit).Prints := by
  intro s
  refine ⟨"", ?_⟩
  rw [run_pure, String.append_empty]

theorem prints_print (text : String) : (print text : Procedure ε Unit).Prints :=
  fun _ => ⟨text, rfl⟩

theorem Prints.answers {a : Procedure ε Unit} (h : a.Prints) : a.Answers := by
  intro s
  obtain ⟨text, hText⟩ := h s
  rw [hText]
  exact ⟨rfl, nofun⟩

theorem Reads.answers {next : α → Procedure ε Unit} (h : a.Reads) (hNext : ∀ x, (next x).Answers) :
    Answers (a >>= next) := by
  intro s
  rw [run_bind]
  obtain ⟨hFiles, hOutput⟩ := h s
  rcases hRun : a.run s with ⟨e | x, s'⟩
  all_goals rw [hRun] at hFiles hOutput
  · exact ⟨hFiles, fun _ _ => hOutput⟩
  · obtain ⟨hFiles', hOutput'⟩ := hNext x s'
    exact ⟨hFiles'.trans hFiles, fun e he => (hOutput' e he).trans hOutput⟩

/-! ### Two runs -/

/-- Two ends of procedures: with results and files that match, or with the same error. -/
inductive Concur (Q : FileTree → FileTree → Prop) (S : α → β → Prop) :
    Except ε α × Session → Except ε β × Session → Prop where
  | ok {x y s s'} (value : S x y) (files : Q s.files s'.files) : Concur Q S (.ok x, s) (.ok y, s')
  | error {e s s'} : Concur Q S (.error e, s) (.error e, s')

theorem Concur.of_eq {Q : FileTree → FileTree → Prop} {r r' : Except ε α × Session}
    (h : r'.1 = r.1) (hFiles : Q r.2.files r'.2.files) : Concur Q (fun x y => y = x) r r' := by
  rcases r with ⟨e | x, s⟩
  all_goals
    rcases r' with ⟨_, s'⟩
    obtain rfl := h
  · exact .error
  · exact .ok rfl hFiles

/-- Two procedures that end alike wherever the files match. -/
def Agree (P Q : FileTree → FileTree → Prop) (S : α → β → Prop) (a : Procedure ε α)
    (b : Procedure ε β) : Prop :=
  ∀ s s', P s.files s'.files → Concur Q S (a.run s) (b.run s')

section Agree

variable {P Q R : FileTree → FileTree → Prop} {S : α → β → Prop} {S' : γ → δ → Prop}

theorem Agree.bind {a : Procedure ε α} {b : Procedure ε β} {next : α → Procedure ε γ}
    {next' : β → Procedure ε δ} (h : Agree P Q S a b)
    (hNext : ∀ x y, S x y → Agree Q R S' (next x) (next' y)) :
    Agree P R S' (a >>= next) (b >>= next') := by
  intro s s' hFiles
  have hRun := h s s' hFiles
  rw [run_bind, run_bind]
  generalize a.run s = r at hRun
  generalize b.run s' = r' at hRun
  cases hRun with
  | ok hValue hFiles => exact hNext _ _ hValue _ _ hFiles
  | error => exact .error

theorem agree_ask {question : FileTree → Except ε α} {question' : FileTree → Except ε α} (f : α → γ)
    (h : ∀ t u, P t u → (question' u).map f = (question t).map f) :
    Agree P P (fun x y => f y = f x) (ask question) (ask question') := by
  intro s s' hFiles
  have hSame := h _ _ hFiles
  rw [run_ask, run_ask]
  cases hResult : question s.files with
  | error e =>
    rw [hResult] at hSame
    rw [map_eq_error_iff.mp hSame]
    exact .error
  | ok x =>
    rw [hResult] at hSame
    obtain ⟨y, hResult', hValue⟩ := map_eq_ok_iff.mp hSame
    rw [hResult']
    exact .ok hValue hFiles

theorem agree_ofExcept {result result' : Except ε α} (f : α → γ)
    (h : result'.map f = result.map f) :
    Agree P P (fun x y => f y = f x) (ofExcept result) (ofExcept result') :=
  agree_ask f fun _ _ _ => h

theorem agree_prints {a b : Procedure ε Unit} (ha : a.Prints) (hb : b.Prints) :
    Agree P (fun _ _ => True) Eq a b := by
  intro s s' _
  obtain ⟨text, hText⟩ := ha s
  obtain ⟨text', hText'⟩ := hb s'
  rw [hText, hText']
  exact .ok rfl trivial

end Agree

end Worklist.CommandLine.Procedure
