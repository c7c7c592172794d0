/-
# PathTemplate.Proofs.Regex.Search — a search finds a match exactly if there is one.

A thread finishes if what it has still to do can be done from its place on. No step of a thread changes whether
it finishes, which makes the search sound: marks that are found are the marks of some way to match.

It is complete although no choice is made twice at one place. Suppose a thread could still be accepted, and the
search makes a choice that this thread would have to make again later. The last time that it makes this choice
it has the same left to do as the thread that is split now. So one of the two halves is accepted without making
the choice again, and the search still has that half.
-/
import PathTemplate.Proofs.Regex.Plan
import PathTemplate.Regex.Match

namespace PathTemplate.Regex

/-! ## Ways from a place on -/

namespace Ways

variable {W V : Ways} {text : Text} {place : Nat} {marks ms : List Mark}

/-- From the place on there is such a way, and it leaves the marks `ms` if `marks` are there before. -/
def From (W : Ways) (text : Text) (place : Nat) (marks ms : List Mark) : Prop :=
  ∃ taken after produced, text.drop place = taken ++ after ∧
    W (text.take place) taken after produced ∧ ms = produced ++ marks

theorem from_nothing : nothing.From text place marks ms ↔ ms = marks := by
  constructor
  · rintro ⟨taken, after, produced, _, ⟨rfl, rfl⟩, rfl⟩
    rfl
  · rintro rfl
    exact ⟨[], text.drop place, [], rfl, ⟨rfl, rfl⟩, rfl⟩

theorem from_either : (V.either W).From text place marks ms ↔
    V.From text place marks ms ∨ W.From text place marks ms := by
  constructor
  · rintro ⟨taken, after, produced, htext, h | h, rfl⟩
    · exact Or.inl ⟨taken, after, produced, htext, h, rfl⟩
    · exact Or.inr ⟨taken, after, produced, htext, h, rfl⟩
  · rintro (⟨taken, after, produced, htext, h, rfl⟩ | ⟨taken, after, produced, htext, h, rfl⟩)
    · exact ⟨taken, after, produced, htext, Or.inl h, rfl⟩
    · exact ⟨taken, after, produced, htext, Or.inr h, rfl⟩

theorem from_mark_andThen {f : Nat → Mark} (hplace : place ≤ text.length) :
    ((mark f).andThen W).From text place marks ms ↔ W.From text place (f place :: marks) ms := by
  have hlength : (text.take place).length = place := by simp [hplace]
  constructor
  · rintro ⟨_, after, _, htext, ⟨u, v, m, n, rfl, rfl, ⟨rfl, rfl⟩, hW⟩, rfl⟩
    rw [List.append_nil] at hW
    exact ⟨v, after, n, htext, hW, by simp [hlength]⟩
  · rintro ⟨taken, after, n, htext, hW, rfl⟩
    refine ⟨taken, after, n ++ [f place], htext, ⟨[], taken, [f place], n, rfl, rfl, ⟨rfl, ?_⟩, ?_⟩, by simp⟩
    · rw [hlength]
    · rw [List.append_nil]
      exact hW

theorem holdsAt_toArray (a : Anchor) (hplace : place ≤ text.length) :
    a.holdsAt text.toArray place = a.holds (text.take place).getLast? (text.drop place).head? := by
  have hbefore : (text.take place).getLast? = if place = 0 then none else text[place - 1]? := by
    rw [List.getLast?_take]
    split
    · rfl
    · have hlt : place - 1 < text.length := by omega
      rw [List.getElem?_eq_getElem hlt]
      rfl
  rw [Anchor.holdsAt, hbefore, List.head?_drop]
  simp

theorem from_anchor_andThen {a : Anchor} (hplace : place ≤ text.length) :
    ((anchor a).andThen W).From text place marks ms ↔
      a.holdsAt text.toArray place = true ∧ W.From text place marks ms := by
  rw [holdsAt_toArray a hplace]
  constructor
  · rintro ⟨_, after, _, htext, ⟨u, v, m, n, rfl, rfl, ⟨rfl, rfl, ha⟩, hW⟩, rfl⟩
    rw [List.append_nil] at hW
    rw [List.nil_append] at htext
    rw [htext]
    exact ⟨ha, v, after, n, htext, hW, by simp⟩
  · rintro ⟨ha, taken, after, n, htext, hW, rfl⟩
    rw [htext] at ha
    refine ⟨taken, after, n, htext, ⟨[], taken, [], n, rfl, by simp, ⟨rfl, rfl, ha⟩, ?_⟩, rfl⟩
    rw [List.append_nil]
    exact hW

theorem from_character_andThen {p : Char → Bool} :
    ((character p).andThen W).From text place marks ms ↔
      ∃ c, text[place]? = some c ∧ p c = true ∧ W.From text (place + 1) marks ms := by
  constructor
  · rintro ⟨_, after, _, htext, ⟨u, v, m, n, rfl, rfl, ⟨⟨c, hc, rfl⟩, rfl⟩, hW⟩, rfl⟩
    have hdrop : text.drop place = c :: (v ++ after) := by simpa using htext
    have hget : text[place]? = some c := by rw [← List.head?_drop, hdrop, List.head?_cons]
    obtain ⟨hlt, hc'⟩ := List.getElem?_eq_some_iff.1 hget
    rw [List.drop_eq_getElem_cons hlt, List.cons.injEq] at hdrop
    refine ⟨c, hget, hc, v, after, n, hdrop.2, ?_, by simp⟩
    rw [List.take_succ_eq_append_getElem hlt, hc']
    exact hW
  · rintro ⟨c, hget, hc, taken, after, n, htext, hW, rfl⟩
    obtain ⟨hlt, rfl⟩ := List.getElem?_eq_some_iff.1 hget
    refine ⟨text[place] :: taken, after, n, ?_, ⟨[text[place]], taken, [], n, rfl, by simp,
      ⟨⟨_, hc, rfl⟩, rfl⟩, ?_⟩, rfl⟩
    · rw [List.drop_eq_getElem_cons hlt, htext, List.cons_append]
    · rw [← List.take_succ_eq_append_getElem hlt]
      exact hW

end Ways

/-! ## What a thread can still do -/

/-- The ways of a task. -/
def Task.ways : Task → Ways
  | go plan => plan.ways
  | leave name => .mark (.left name)

/-- The ways of tasks one after another. -/
def todoWays (todo : List Task) : Ways := todo.foldr (fun task W => task.ways.andThen W) .nothing

theorem todoWays_go (plan : Plan) (todo : List Task) :
    todoWays (.go plan :: todo) = plan.ways.andThen (todoWays todo) := rfl

theorem todoWays_leave (name : Text) (todo : List Task) :
    todoWays (.leave name :: todo) = (Ways.mark (.left name)).andThen (todoWays todo) := rfl

/-- The thread can come to its end, and has the marks `ms` then. -/
def Thread.Finishes (text : Text) (t : Thread) (ms : List Mark) : Prop :=
  (todoWays t.todo).From text t.place t.marks ms

/-- What a step says about the ends of a thread. -/
def Step.Keeps (text : Text) (t : Thread) : Step → Prop
  | failed => ∀ ms, ¬ t.Finishes text ms
  | finished marks => t.Finishes text marks
  | next t' => t'.place ≤ text.length ∧ ∀ ms, t.Finishes text ms ↔ t'.Finishes text ms
  | split _ first second =>
    first.place = t.place ∧ second.place = t.place ∧
      ∀ ms, t.Finishes text ms ↔ first.Finishes text ms ∨ second.Finishes text ms

/-- A loop makes no further turn, or one and then the loop again. -/
theorem Plan.ways_loop (point : Nat) (greedy : Bool) (body : Plan) :
    (loop point greedy body).ways =
      (body.ways.andThen (loop point greedy body).ways).either .nothing := by
  rw [ways, Ways.andThen_times, Ways.times_either_nothing]
  apply Ways.times_congr
  intro n
  cases n with
  | zero => simp
  | succ n => simp

/-- No step changes whether a thread finishes. -/
theorem Thread.keeps_step (text : Text) (t : Thread) (hplace : t.place ≤ text.length) :
    (t.step text.toArray).Keeps text t := by
  obtain ⟨todo, place, marks⟩ := t
  -- the first task decides what the step is; the rest is carried along by `andThen`
  match todo with
  | [] => exact Ways.from_nothing.2 rfl
  | .leave name :: todo =>
    refine ⟨hplace, fun ms => ?_⟩
    rw [Finishes, todoWays_leave, Ways.from_mark_andThen hplace]
    rfl
  | .go .empty :: todo =>
    refine ⟨hplace, fun ms => ?_⟩
    rw [Finishes, todoWays_go, Plan.ways, Ways.nothing_andThen]
    rfl
  | .go (.set s) :: todo =>
    have hfrom (ms : List Mark) : Finishes text ⟨.go (.set s) :: todo, place, marks⟩ ms ↔
        ∃ c, text[place]? = some c ∧ s.contains c = true ∧ (todoWays todo).From text (place + 1) marks ms :=
      Ways.from_character_andThen
    simp only [step, List.getElem?_toArray]
    cases hget : text[place]? with
    | none =>
      intro ms h
      obtain ⟨c, hc, _⟩ := (hfrom ms).1 h
      rw [hget] at hc
      simp at hc
    | some c =>
      obtain ⟨hlt, _⟩ := List.getElem?_eq_some_iff.1 hget
      rw [hget] at hfrom
      dsimp only
      split
      · rename_i hc
        refine ⟨hlt, fun ms => (hfrom ms).trans ?_⟩
        simp [hc, Finishes]
      · rename_i hc
        intro ms h
        obtain ⟨d, hd, hcontains, _⟩ := (hfrom ms).1 h
        obtain rfl := Option.some.inj hd
        exact hc hcontains
  | .go (.anchor a) :: todo =>
    have hfrom (ms : List Mark) : Finishes text ⟨.go (.anchor a) :: todo, place, marks⟩ ms ↔
        a.holdsAt text.toArray place = true ∧ (todoWays todo).From text place marks ms :=
      Ways.from_anchor_andThen hplace
    show Step.Keeps text _ (if a.holdsAt text.toArray place then .next ⟨todo, place, marks⟩ else .failed)
    split
    · rename_i ha
      refine ⟨hplace, fun ms => (hfrom ms).trans ?_⟩
      simp [ha, Finishes]
    · rename_i ha
      intro ms h
      exact ha ((hfrom ms).1 h).1
  | .go (.seq first second) :: todo =>
    refine ⟨hplace, fun ms => ?_⟩
    rw [Finishes, todoWays_go, Plan.ways, Ways.andThen_assoc]
    rfl
  | .go (.choice point first second) :: todo =>
    refine ⟨rfl, rfl, fun ms => ?_⟩
    rw [Finishes, todoWays_go, Plan.ways, Ways.either_andThen, Ways.from_either]
    rfl
  | .go (.loop point greedy body) :: todo =>
    have hfrom (ms : List Mark) : Finishes text ⟨.go (.loop point greedy body) :: todo, place, marks⟩ ms ↔
        Finishes text ⟨.go body :: .go (.loop point greedy body) :: todo, place, marks⟩ ms ∨
        Finishes text ⟨todo, place, marks⟩ ms := by
      rw [Finishes, todoWays_go, Plan.ways_loop, Ways.either_andThen, Ways.from_either, Ways.andThen_assoc,
        Ways.nothing_andThen]
      rfl
    rw [step]
    cases greedy with
    | true => exact ⟨rfl, rfl, hfrom⟩
    | false => exact ⟨rfl, rfl, fun ms => (hfrom ms).trans or_comm⟩
  | .go (.named name body) :: todo =>
    refine ⟨hplace, fun ms => ?_⟩
    rw [Finishes, todoWays_go, Plan.ways, Ways.group, Ways.andThen_assoc, Ways.from_mark_andThen hplace,
      Ways.andThen_assoc]
    rfl

/-- What a search finds are the marks that one of the threads has at its end. -/
theorem finishes_of_search {text : Text} {made : Array Bool} {threads : List Thread} {ms : List Mark}
    (hplace : ∀ t ∈ threads, t.place ≤ text.length)
    (h : search text.toArray made threads = some ms) : ∃ t ∈ threads, t.Finishes text ms := by
  fun_induction search text.toArray made threads with
  | case1 => simp at h
  | case2 made t waiting hstep ih =>
    obtain ⟨u, hu, hfinishes⟩ := ih (fun u hu => hplace u (List.mem_cons_of_mem _ hu)) h
    exact ⟨u, List.mem_cons_of_mem _ hu, hfinishes⟩
  | case3 made t waiting marks hstep =>
    have hkeeps := t.keeps_step text (hplace t List.mem_cons_self)
    rw [hstep] at hkeeps
    obtain rfl := Option.some.inj h
    exact ⟨t, List.mem_cons_self, hkeeps⟩
  | case4 made t waiting t' hstep ih =>
    have hkeeps := t.keeps_step text (hplace t List.mem_cons_self)
    rw [hstep] at hkeeps
    have hplace' : ∀ u ∈ t' :: waiting, u.place ≤ text.length := by
      intro u hu
      rcases List.mem_cons.1 hu with rfl | hu
      · exact hkeeps.1
      · exact hplace u (List.mem_cons_of_mem _ hu)
    obtain ⟨u, hu, hfinishes⟩ := ih hplace' h
    rcases List.mem_cons.1 hu with rfl | hu
    · exact ⟨t, List.mem_cons_self, (hkeeps.2 ms).2 hfinishes⟩
    · exact ⟨u, List.mem_cons_of_mem _ hu, hfinishes⟩
  -- a choice that is made for the first time: both halves wait in the place of the thread
  | case5 made t waiting point first second hstep hmade ih =>
    have hkeeps := t.keeps_step text (hplace t List.mem_cons_self)
    rw [hstep] at hkeeps
    obtain ⟨hfirst, hsecond, hkeeps⟩ := hkeeps
    have hplace' : ∀ u ∈ first :: second :: waiting, u.place ≤ text.length := by
      intro u hu
      rcases List.mem_cons.1 hu with rfl | hu
      · exact hfirst ▸ hplace t List.mem_cons_self
      · rcases List.mem_cons.1 hu with rfl | hu
        · exact hsecond ▸ hplace t List.mem_cons_self
        · exact hplace u (List.mem_cons_of_mem _ hu)
    obtain ⟨u, hu, hfinishes⟩ := ih hplace' h
    rcases List.mem_cons.1 hu with rfl | hu
    · exact ⟨t, List.mem_cons_self, (hkeeps ms).2 (Or.inl hfinishes)⟩
    · rcases List.mem_cons.1 hu with rfl | hu
      · exact ⟨t, List.mem_cons_self, (hkeeps ms).2 (Or.inr hfinishes)⟩
      · exact ⟨u, List.mem_cons_of_mem _ hu, hfinishes⟩
  | case6 made t waiting point first second hstep hmade ih =>
    obtain ⟨u, hu, hfinishes⟩ := ih (fun u hu => hplace u (List.mem_cons_of_mem _ hu)) h
    exact ⟨u, List.mem_cons_of_mem _ hu, hfinishes⟩

/-! ## Being accepted

A thread is accepted if some choices lead it to its end. Which choices may be made is a parameter: all of them,
or those that a search has not made yet. -/

/-- The thread comes to its end by choices that are free. -/
inductive Accepts (text : Text) (free : Nat → Nat → Prop) : Thread → Prop
  | finished {t : Thread} {marks : List Mark} :
      t.step text.toArray = .finished marks → Accepts text free t
  | next {t t' : Thread} :
      t.step text.toArray = .next t' → Accepts text free t' → Accepts text free t
  | first {t first second : Thread} {point : Nat} :
      t.step text.toArray = .split point first second → free point t.place →
      Accepts text free first → Accepts text free t
  | second {t first second : Thread} {point : Nat} :
      t.step text.toArray = .split point first second → free point t.place →
      Accepts text free second → Accepts text free t

/-- A loop is accepted if it has a further turn after which it is accepted again, or if what follows is. -/
theorem accepts_loop {text : Text} {point : Nat} {greedy : Bool} {body : Plan} {todo : List Task} {place : Nat}
    {marks : List Mark}
    (h : Accepts text (fun _ _ => True) ⟨.go body :: .go (.loop point greedy body) :: todo, place, marks⟩ ∨
      Accepts text (fun _ _ => True) ⟨todo, place, marks⟩) :
    Accepts text (fun _ _ => True) ⟨.go (.loop point greedy body) :: todo, place, marks⟩ := by
  cases greedy with
  | true =>
    rcases h with h | h
    · exact .first rfl trivial h
    · exact .second rfl trivial h
  | false =>
    rcases h with h | h
    · exact .second rfl trivial h
    · exact .first rfl trivial h

/-- A plan that can take some text lets through a thread that is accepted behind that text. -/
theorem accepts_go {plan : Plan} {before taken after : Text} {produced : List Mark} (todo : List Task)
    (hways : plan.ways before taken after produced)
    (hrest : ∀ marks, Accepts (before ++ taken ++ after) (fun _ _ => True)
      ⟨todo, before.length + taken.length, marks⟩) (marks : List Mark) :
    Accepts (before ++ taken ++ after) (fun _ _ => True) ⟨.go plan :: todo, before.length, marks⟩ := by
  induction plan generalizing before taken after produced todo marks with
  | empty =>
    obtain ⟨rfl, rfl⟩ := hways
    exact .next rfl (hrest marks)
  | set s =>
    obtain ⟨⟨c, hc, rfl⟩, rfl⟩ := hways
    refine .next ?_ (hrest marks)
    simp [Thread.step, hc]
  | anchor a =>
    obtain ⟨rfl, rfl, ha⟩ := hways
    have hplace : before.length ≤ (before ++ [] ++ after).length := by simp
    have hholds : a.holdsAt (before ++ [] ++ after).toArray before.length = true := by
      rw [Ways.holdsAt_toArray a hplace]
      simpa using ha
    refine .next ?_ (hrest marks)
    show (if a.holdsAt _ _ then Step.next _ else .failed) = _
    rw [if_pos hholds]
    rfl
  | seq first second ihf ihs =>
    obtain ⟨u, v, m, n, rfl, rfl, hu, hv⟩ := hways
    refine .next rfl ?_
    have hsecond (marks : List Mark) : Accepts (before ++ u ++ (v ++ after)) (fun _ _ => True)
        ⟨.go second :: todo, before.length + u.length, marks⟩ := by
      have := ihs todo hv (fun marks => by simpa [Nat.add_assoc] using hrest marks) marks
      simpa using this
    have := ihf (.go second :: todo) hu hsecond marks
    simpa using this
  | choice point first second ihf ihs =>
    rcases hways with hways | hways
    · exact .first rfl trivial (ihf todo hways hrest marks)
    · exact .second rfl trivial (ihs todo hways hrest marks)
  | loop point greedy body ih =>
    -- a second induction, on the number of turns that the loop takes
    obtain ⟨n, _, hpower⟩ := hways
    induction n generalizing before taken produced marks with
    | zero =>
      obtain ⟨rfl, rfl⟩ := hpower
      exact accepts_loop (Or.inr (hrest marks))
    | succ n ihn =>
      obtain ⟨u, v, m, k, rfl, rfl, hu, hv⟩ := hpower
      have hagain (marks : List Mark) : Accepts (before ++ u ++ (v ++ after)) (fun _ _ => True)
          ⟨.go (.loop point greedy body) :: todo, before.length + u.length, marks⟩ := by
        have := ihn (fun marks => by simpa [Nat.add_assoc] using hrest marks) marks hv
        simpa using this
      have := ih (.go (.loop point greedy body) :: todo) hu hagain marks
      refine accepts_loop (Or.inl ?_)
      simpa using this
  | named name body ih =>
    obtain ⟨_, _, _, _, rfl, rfl, ⟨rfl, rfl⟩, u, v, m, n, rfl, rfl, hu, ⟨rfl, rfl⟩⟩ := hways
    refine .next rfl ?_
    have := ih (.leave name :: todo) hu (fun marks => .next rfl (by simpa using hrest _))
      (.entered name before.length :: marks)
    simpa using this

/-! ## Every choice has one rest -/

/-- The choice points that a thread with these tasks may come to, each with what is to be done there. -/
def todoSites : List Task → List (Nat × List Task)
  | [] => []
  | .go plan :: todo => plan.sites todo ++ todoSites todo
  | .leave _ :: todo => todoSites todo

/-- What a step says about the choice points that a thread may come to. -/
def Step.Stays (t : Thread) : Step → Prop
  | failed => True
  | finished _ => True
  | next t' => todoSites t'.todo ⊆ todoSites t.todo
  | split point first second =>
    (point, t.todo) ∈ todoSites t.todo ∧ todoSites first.todo ⊆ todoSites t.todo ∧
      todoSites second.todo ⊆ todoSites t.todo

namespace Thread

/-- A step leads to no other choice points. -/
theorem stays_step (text : Array Char) (t : Thread) : (t.step text).Stays t := by
  obtain ⟨todo, place, marks⟩ := t
  match todo with
  | [] => trivial
  | .leave name :: todo => exact List.Subset.refl _
  | .go .empty :: todo => exact List.Subset.refl _
  | .go (.set s) :: todo =>
    rw [step]
    dsimp only
    split
    · split
      · exact List.Subset.refl _
      · trivial
    · trivial
  | .go (.anchor a) :: todo =>
    show Step.Stays _ (if a.holdsAt text place then .next ⟨todo, place, marks⟩ else .failed)
    split
    · exact List.Subset.refl _
    · trivial
  | .go (.seq first second) :: todo =>
    simp [step, Step.Stays, todoSites, Plan.sites]
  | .go (.choice point first second) :: todo =>
    refine ⟨List.mem_cons_self, ?_, ?_⟩
    · intro s hs
      simp only [todoSites, Plan.sites, List.mem_append, List.mem_cons] at hs ⊢
      rcases hs with hs | hs <;> simp [hs]
    · intro s hs
      simp only [todoSites, Plan.sites, List.mem_append, List.mem_cons] at hs ⊢
      rcases hs with hs | hs <;> simp [hs]
  | .go (.loop point greedy body) :: todo =>
    have hagain : todoSites (.go body :: .go (.loop point greedy body) :: todo) ⊆
        todoSites (.go (.loop point greedy body) :: todo) := by
      intro s hs
      simp only [todoSites, Plan.sites, List.mem_append, List.mem_cons] at hs ⊢
      rcases hs with hs | (hs | hs) | hs <;> simp [hs]
    have henough : todoSites todo ⊆ todoSites (.go (.loop point greedy body) :: todo) :=
      List.subset_append_right _ _
    rw [step]
    cases greedy with
    | true => exact ⟨List.mem_cons_self, hagain, henough⟩
    | false => exact ⟨List.mem_cons_self, henough, hagain⟩
  | .go (.named name body) :: todo => exact List.Subset.refl _

/-- The thread is at a place of the text, and comes only to the given choice points. -/
def Within (text : Text) (sites : List (Nat × List Task)) (t : Thread) : Prop :=
  todoSites t.todo ⊆ sites ∧ t.place ≤ text.length

variable {text : Text} {sites : List (Nat × List Task)} {t : Thread}

theorem Within.next {t' : Thread} (h : t.Within text sites) (hstep : t.step text.toArray = .next t') :
    t'.Within text sites := by
  have hstays := t.stays_step text.toArray
  have hkeeps := t.keeps_step text h.2
  rw [hstep] at hstays hkeeps
  exact ⟨List.Subset.trans hstays h.1, hkeeps.1⟩

theorem Within.split {first second : Thread} {point : Nat} (h : t.Within text sites)
    (hstep : t.step text.toArray = .split point first second) :
    (point, t.todo) ∈ sites ∧ first.Within text sites ∧ second.Within text sites := by
  have hstays := t.stays_step text.toArray
  have hkeeps := t.keeps_step text h.2
  rw [hstep] at hstays hkeeps
  obtain ⟨hmem, hfirstSites, hsecondSites⟩ := hstays
  obtain ⟨hfirst, hsecond, _⟩ := hkeeps
  exact ⟨h.1 hmem, ⟨List.Subset.trans hfirstSites h.1, hfirst ▸ h.2⟩,
    ⟨List.Subset.trans hsecondSites h.1, hsecond ▸ h.2⟩⟩

end Thread

/-! ## The marks play no role in a search -/

/-- Two steps differ at most in marks. -/
def Step.Similar : Step → Step → Prop
  | failed, failed => True
  | finished _, finished _ => True
  | next t, next t' => t.todo = t'.todo ∧ t.place = t'.place
  | split point first second, split point' first' second' =>
    point = point' ∧ (first.todo = first'.todo ∧ first.place = first'.place) ∧
      second.todo = second'.todo ∧ second.place = second'.place
  | _, _ => False

theorem Thread.similar_step (text : Array Char) {t t' : Thread} (htodo : t.todo = t'.todo)
    (hplace : t.place = t'.place) : (t.step text).Similar (t'.step text) := by
  obtain ⟨todo, place, marks⟩ := t
  obtain ⟨_, _, marks'⟩ := t'
  obtain rfl := htodo
  obtain rfl := hplace
  match todo with
  | [] => trivial
  | .leave name :: todo => exact ⟨rfl, rfl⟩
  | .go .empty :: todo => exact ⟨rfl, rfl⟩
  | .go (.set s) :: todo =>
    rw [step, step]
    dsimp only
    split
    · split
      · exact ⟨rfl, rfl⟩
      · trivial
    · trivial
  | .go (.anchor a) :: todo =>
    show Step.Similar (if a.holdsAt text place then .next ⟨todo, place, marks⟩ else .failed)
      (if a.holdsAt text place then .next ⟨todo, place, marks'⟩ else .failed)
    split
    · exact ⟨rfl, rfl⟩
    · trivial
  | .go (.seq first second) :: todo => exact ⟨rfl, rfl⟩
  | .go (.choice point first second) :: todo => exact ⟨rfl, ⟨rfl, rfl⟩, rfl, rfl⟩
  | .go (.loop point greedy body) :: todo =>
    rw [step, step]
    cases greedy with
    | true => exact ⟨rfl, ⟨rfl, rfl⟩, rfl, rfl⟩
    | false => exact ⟨rfl, ⟨rfl, rfl⟩, rfl, rfl⟩
  | .go (.named name body) :: todo => exact ⟨rfl, rfl⟩

theorem Accepts.similar {text : Text} {free : Nat → Nat → Prop} {t t' : Thread} (h : Accepts text free t)
    (htodo : t.todo = t'.todo) (hplace : t.place = t'.place) : Accepts text free t' := by
  induction h generalizing t' with
  | @finished t marks hstep =>
    have hsimilar := Thread.similar_step text.toArray htodo hplace
    rw [hstep] at hsimilar
    cases hstep' : t'.step text.toArray with
    | finished marks' => exact .finished hstep'
    | _ => simp [hstep', Step.Similar] at hsimilar
  | @next t u hstep _ ih =>
    have hsimilar := Thread.similar_step text.toArray htodo hplace
    rw [hstep] at hsimilar
    cases hstep' : t'.step text.toArray with
    | next u' =>
      rw [hstep'] at hsimilar
      exact .next hstep' (ih hsimilar.1 hsimilar.2)
    | _ => simp [hstep', Step.Similar] at hsimilar
  | @first t a b point hstep hfree _ ih =>
    have hsimilar := Thread.similar_step text.toArray htodo hplace
    rw [hstep] at hsimilar
    cases hstep' : t'.step text.toArray with
    | split point' a' b' =>
      rw [hstep'] at hsimilar
      obtain ⟨rfl, ha, _⟩ := hsimilar
      exact .first hstep' (hplace ▸ hfree) (ih ha.1 ha.2)
    | _ => simp [hstep', Step.Similar] at hsimilar
  | @second t a b point hstep hfree _ ih =>
    have hsimilar := Thread.similar_step text.toArray htodo hplace
    rw [hstep] at hsimilar
    cases hstep' : t'.step text.toArray with
    | split point' a' b' =>
      rw [hstep'] at hsimilar
      obtain ⟨rfl, _, hb⟩ := hsimilar
      exact .second hstep' (hplace ▸ hfree) (ih hb.1 hb.2)
    | _ => simp [hstep', Step.Similar] at hsimilar

/-! ## Completeness -/

/-- The choice at the point has not been made at the place. -/
def Unmade (text : Text) (made : Array Bool) (point place : Nat) : Prop :=
  made[cell text.toArray point place]? = some false

/-- Different choices have different cells. -/
theorem eq_of_cell_eq {text : Text} {point point' place place' : Nat} (hplace : place ≤ text.length)
    (hplace' : place' ≤ text.length) (h : cell text.toArray point place = cell text.toArray point' place') :
    point = point' ∧ place = place' := by
  simp only [cell, List.size_toArray] at h
  have hpoint : point = point' := by
    have hdiv := congrArg (· / (text.length + 1)) h
    simp only [Nat.mul_comm _ (text.length + 1)] at hdiv
    rw [Nat.mul_add_div (Nat.succ_pos _), Nat.mul_add_div (Nat.succ_pos _),
      Nat.div_eq_of_lt (Nat.lt_succ_of_le hplace), Nat.div_eq_of_lt (Nat.lt_succ_of_le hplace')] at hdiv
    exact hdiv
  subst hpoint
  exact ⟨rfl, Nat.add_left_cancel h⟩

/-- A choice that is made leaves the other choices as they were. -/
theorem unmade_setIfInBounds {text : Text} {made : Array Bool} {point place i : Nat}
    (h : Unmade text made point place) (hne : cell text.toArray point place ≠ i) :
    Unmade text (made.setIfInBounds i true) point place := by
  rw [Unmade, Array.getElem?_setIfInBounds_ne hne.symm]
  exact h

/-- A choice that has just been made is made. -/
theorem not_unmade_setIfInBounds {text : Text} {made : Array Bool} {point place : Nat} :
    ¬ Unmade text (made.setIfInBounds (cell text.toArray point place) true) point place := by
  rw [Unmade, Array.getElem?_setIfInBounds_self]
  split <;> simp

/-- A thread that is accepted now is still accepted once a choice is made, or it would have to make that
choice; then one of the halves of the thread that is split is accepted. -/
theorem Accepts.reroute {text : Text} {made : Array Bool} {sites : List (Nat × List Task)}
    {low high point : Nat} {t u first second : Thread} (hlaid : LaidOut low high sites)
    (hu : Accepts text (Unmade text made) u) (huWithin : u.Within text sites) (htWithin : t.Within text sites)
    (hstep : t.step text.toArray = .split point first second) :
    let made' := made.setIfInBounds (cell text.toArray point t.place) true
    Accepts text (Unmade text made') u ∨ Accepts text (Unmade text made') first ∨
      Accepts text (Unmade text made') second := by
  intro made'
  -- one cell means one point and one place, hence one rest: the same choice up to marks
  have hsame {v a b : Thread} {q : Nat} (hv : v.Within text sites)
      (hvstep : v.step text.toArray = .split q a b)
      (hcell : cell text.toArray q v.place = cell text.toArray point t.place) :
      (Step.split q a b).Similar (.split point first second) := by
    obtain ⟨rfl, hplace⟩ := eq_of_cell_eq hv.2 htWithin.2 hcell
    have htodo := hlaid.unique _ (hv.split hvstep).1 _ (htWithin.split hstep).1 rfl
    have hsimilar := Thread.similar_step text.toArray (Prod.mk.inj htodo).2 hplace
    rw [hvstep, hstep] at hsimilar
    exact hsimilar
  induction hu with
  | finished hfinished => exact Or.inl (.finished hfinished)
  | next hnext _ ih =>
    rcases ih (huWithin.next hnext) with h | h
    · exact Or.inl (.next hnext h)
    · exact Or.inr h
  | @first v a b q hsplit hfree _ ih =>
    -- the induction is on the choices still to come, so this finds the last time that the choice is made
    rcases ih (huWithin.split hsplit).2.1 with h | h
    · by_cases hcell : cell text.toArray q v.place = cell text.toArray point t.place
      · obtain ⟨_, ha, _⟩ := hsame huWithin hsplit hcell
        exact Or.inr (Or.inl (h.similar ha.1 ha.2))
      · exact Or.inl (.first hsplit (unmade_setIfInBounds hfree hcell) h)
    · exact Or.inr h
  | @second v a b q hsplit hfree _ ih =>
    rcases ih (huWithin.split hsplit).2.2 with h | h
    · by_cases hcell : cell text.toArray q v.place = cell text.toArray point t.place
      · obtain ⟨_, _, hb⟩ := hsame huWithin hsplit hcell
        exact Or.inr (Or.inr (h.similar hb.1 hb.2))
      · exact Or.inl (.second hsplit (unmade_setIfInBounds hfree hcell) h)
    · exact Or.inr h

/-- If a search fails, none of its threads is accepted by choices that had not been made. -/
theorem not_accepts_of_search {text : Text} {made : Array Bool} {sites : List (Nat × List Task)}
    {low high : Nat} {threads : List Thread} (hlaid : LaidOut low high sites)
    (hwithin : ∀ t ∈ threads, t.Within text sites) (h : search text.toArray made threads = none) :
    ∀ t ∈ threads, ¬ Accepts text (Unmade text made) t := by
  fun_induction search text.toArray made threads with
  | case1 => simp
  | case2 made t waiting hfailed ih =>
    obtain ⟨ht, hwaiting⟩ := List.forall_mem_cons.1 hwithin
    refine List.forall_mem_cons.2 ⟨?_, ih hwaiting h⟩
    intro haccepts
    cases haccepts <;> simp_all
  | case3 made t waiting marks hfinished => simp at h
  | case4 made t waiting t' hnext ih =>
    obtain ⟨ht, hwaiting⟩ := List.forall_mem_cons.1 hwithin
    obtain ⟨ht', hrest⟩ := List.forall_mem_cons.1
      (ih (List.forall_mem_cons.2 ⟨ht.next hnext, hwaiting⟩) h)
    refine List.forall_mem_cons.2 ⟨?_, hrest⟩
    intro haccepts
    cases haccepts <;> simp_all
  | case5 made t waiting point first second hsplit hmade ih =>
    obtain ⟨ht, hwaiting⟩ := List.forall_mem_cons.1 hwithin
    obtain ⟨_, hfirstWithin, hsecondWithin⟩ := ht.split hsplit
    have hnone := ih (List.forall_mem_cons.2 ⟨hfirstWithin, List.forall_mem_cons.2 ⟨hsecondWithin, hwaiting⟩⟩) h
    intro u hu haccepts
    have huWithin : u.Within text sites := hwithin u hu
    -- Whatever thread it is, it survives the choice or one of the two halves takes its place.
    rcases haccepts.reroute hlaid huWithin ht hsplit with hacc | hacc | hacc
    · rcases List.mem_cons.1 hu with rfl | hu
      · -- The thread that is split is the one that cannot: it begins with the choice that is now made.
        have hfree : Unmade text (made.setIfInBounds (cell text.toArray point u.place) true) point u.place := by
          cases hacc <;> simp_all
        exact not_unmade_setIfInBounds hfree
      · exact hnone u (by simp [hu]) hacc
    · exact hnone first (by simp) hacc
    · exact hnone second (by simp) hacc
  -- the choice was made before, so it is not free for the thread that would need it
  | case6 made t waiting point first second hsplit hmade ih =>
    obtain ⟨ht, hwaiting⟩ := List.forall_mem_cons.1 hwithin
    refine List.forall_mem_cons.2 ⟨?_, ih hwaiting h⟩
    intro haccepts
    cases haccepts <;> simp_all [Unmade]

/-- At the start of a search every choice that a thread may come to can be made. -/
theorem Accepts.unmade_replicate {text : Text} {sites : List (Nat × List Task)} {low high : Nat} {t : Thread}
    (hlaid : LaidOut low high sites) (hwithin : t.Within text sites)
    (h : Accepts text (fun _ _ => True) t) :
    Accepts text (Unmade text (.replicate (high * (text.length + 1)) false)) t := by
  have hunmade {u first second : Thread} {point : Nat} (hu : u.Within text sites)
      (hsplit : u.step text.toArray = .split point first second) :
      Unmade text (.replicate (high * (text.length + 1)) false) point u.place := by
    have hpoint : point < high := hlaid.lt_high _ (hu.split hsplit).1
    have hcell : cell text.toArray point u.place < high * (text.length + 1) := by
      have hmul : (point + 1) * (text.length + 1) ≤ high * (text.length + 1) :=
        Nat.mul_le_mul_right _ hpoint
      have hplace := hu.2
      rw [Nat.succ_mul] at hmul
      rw [cell, List.size_toArray]
      omega
    rw [Unmade, Array.getElem?_replicate, if_pos hcell]
  induction h with
  | finished hfinished => exact .finished hfinished
  | next hnext _ ih => exact .next hnext (ih (hwithin.next hnext))
  | first hsplit _ _ ih => exact .first hsplit (hunmade hwithin hsplit) (ih (hwithin.split hsplit).2.1)
  | second hsplit _ _ ih => exact .second hsplit (hunmade hwithin hsplit) (ih (hwithin.split hsplit).2.2)

/-! ## Matching -/

/-- The marks that are found are those of a way of the expression. -/
theorem ways_of_find? {r : Regex} {text : Text} {marks : List Mark} (h : r.find? text = some marks) :
    ∃ before taken after, text = before ++ taken ++ after ∧ r.ways before taken after marks := by
  have hplace : ∀ t ∈ (List.range (text.length + 1)).map fun place => Thread.mk [.go (r.plan 0)] place [],
      t.place ≤ text.length := by
    intro t ht
    obtain ⟨place, hmem, rfl⟩ := List.mem_map.1 ht
    exact Nat.le_of_lt_succ (List.mem_range.1 hmem)
  rw [find?] at h
  simp only [List.size_toArray] at h
  obtain ⟨t, ht, hfinishes⟩ := finishes_of_search hplace h
  obtain ⟨place, hmem, rfl⟩ := List.mem_map.1 ht
  obtain ⟨taken, after, produced, htext, hways, rfl⟩ := hfinishes
  rw [todoWays_go, ways_plan] at hways
  refine ⟨text.take place, taken, after, ?_, ?_⟩
  · rw [List.append_assoc, ← htext, List.take_append_drop]
  · rw [List.append_nil]
    have hnothing := Ways.andThen_nothing r.ways
    exact hnothing ▸ hways

/-- A search is complete: where there is a way to match, a match is found. -/
theorem isMatch_iff_ways {r : Regex} {text : Text} :
    r.isMatch text = true ↔
      ∃ before taken after marks, text = before ++ taken ++ after ∧ r.ways before taken after marks := by
  constructor
  · intro h
    obtain ⟨marks, hmarks⟩ := Option.isSome_iff_exists.1 h
    obtain ⟨before, taken, after, htext, hways⟩ := ways_of_find? hmarks
    exact ⟨before, taken, after, marks, htext, hways⟩
  · rintro ⟨before, taken, after, marks, rfl, hways⟩
    have hlaid := laidOut_plan r 0 []
    rw [Nat.zero_add] at hlaid
    have hwithin : ∀ t ∈ (List.range ((before ++ taken ++ after).length + 1)).map
        fun place => Thread.mk [.go (r.plan 0)] place [],
        t.Within (before ++ taken ++ after) ((r.plan 0).sites []) := by
      intro t ht
      obtain ⟨place, hmem, rfl⟩ := List.mem_map.1 ht
      refine ⟨?_, Nat.le_of_lt_succ (List.mem_range.1 hmem)⟩
      intro s hs
      simpa [todoSites] using hs
    have hmem : Thread.mk [.go (r.plan 0)] before.length [] ∈
        (List.range ((before ++ taken ++ after).length + 1)).map
          fun place => Thread.mk [.go (r.plan 0)] place [] := by
      refine List.mem_map.2 ⟨before.length, List.mem_range.2 ?_, rfl⟩
      simp only [List.length_append]
      omega
    rw [← ways_plan r 0] at hways
    have haccepts := accepts_go [] hways (fun marks => .finished rfl) []
    have hunmade := haccepts.unmade_replicate hlaid (hwithin _ hmem)
    rw [isMatch, Option.isSome_iff_ne_none]
    intro hnone
    rw [find?] at hnone
    simp only [List.size_toArray] at hnone
    exact not_accepts_of_search hlaid hwithin hnone _ hmem hunmade

end PathTemplate.Regex
