import ModuleDocs.Checkout.Modules
import ModuleDocs.Proofs.Text.LineEnds

/-! # The repository that an address names

    The address of the origin names a repository after its host, in one of
    three forms.  The name that is cut out of it ends before the first dot.
    That takes the ending of the address away, and with it everything behind
    a dot of the name itself: a repository whose name holds a dot is shown
    under a shorter name, and one whose name begins with a dot is not found
    at all. -/

namespace ModuleDocs

open Text

/-! ## Answers of the version control program -/

/-- The program prints an answer, with nothing but white space around it. -/
def Git.Prints (git : Git) (q : GitQuery) (answer : Text) : Prop :=
  ∃ before after, git q = some (before ++ answer ++ after) ∧
    (∀ c ∈ before, isSpace c = true) ∧ ∀ c ∈ after, isSpace c = true

/-- White space with other line ends is white space. -/
theorem Text.isSpace_withNewlines {t : Text} (h : ∀ c ∈ t, isSpace c = true) :
    ∀ c ∈ withNewlines t, isSpace c = true := by
  fun_induction withNewlines t with
  | case1 => exact List.forall_mem_nil _
  | case2 t ih =>
      have ht : ∀ c ∈ t, isSpace c = true := fun c hc =>
        h c (List.mem_cons_of_mem _ (List.mem_cons_of_mem _ hc))
      exact List.forall_mem_cons.mpr ⟨by decide, ih ht⟩
  | case3 c t _ ih =>
      obtain ⟨hc, ht⟩ := List.forall_mem_cons.mp h
      refine List.forall_mem_cons.mpr ⟨?_, ih ht⟩
      split
      · decide
      · exact hc

/-- A trimmed line that is printed is the answer. -/
theorem Git.Prints.answer?_eq {git : Git} {q : GitQuery} {answer : Text}
    (h : git.Prints q answer) (hne : answer ≠ []) (htrim : trim answer = answer)
    (hreturn : '\r' ∉ answer) : git.answer? q = some answer := by
  obtain ⟨before, after, hprinted, hbefore, hafter⟩ := h
  obtain ⟨c, t, rfl⟩ := List.exists_cons_of_ne_nil hne
  have hc : c ≠ '\n' := by
    rintro rfl
    exact absurd (head_of_trimmed htrim '\n' rfl) (by decide)
  have hlines : withNewlines (before ++ (c :: t) ++ after)
      = withNewlines before ++ (c :: t ++ withNewlines after) := by
    rw [List.append_assoc, List.cons_append, withNewlines_append_cons hc, ← List.cons_append,
      withNewlines_append_of_not_mem hreturn]
  have hanswer : trim (withNewlines (before ++ (c :: t) ++ after)) = c :: t := by
    rw [hlines, trim_spaces_append (isSpace_withNewlines hbefore),
      trim_append_spaces htrim (isSpace_withNewlines hafter)]
  rw [Git.answer?, hprinted, Option.map_some, hanswer]

namespace Repository

variable {owner name address t : Text} {c : Char}

/-! ## Hosted repositories -/

/-- Whether a character may stand in the name of an owner. -/
def isOwnerChar (c : Char) : Bool := c.isAlphanum || c = '-'

/-- Whether a character may stand in the name of a hosted repository. -/
def isHostedChar (c : Char) : Bool := c.isAlphanum || c = '-' || c = '_' || c = '.'

/-- The names of an owner and of one of its repositories. -/
structure IsHosted (owner name : Text) : Prop where
  owner_ne_nil : owner ≠ []
  owner_chars : ∀ c ∈ owner, isOwnerChar c = true
  name_ne_nil : name ≠ []
  name_chars : ∀ c ∈ name, isHostedChar c = true

/-- The addresses of a hosted repository. -/
def addresses (owner name : Text) : List Text :=
  ["git@github.com:" ++ owner ++ "/" ++ name ++ ".git",
    "https://github.com/" ++ owner ++ "/" ++ name ++ ".git",
    "https://github.com/" ++ owner ++ "/" ++ name]

/-- The repository that is shown for a hosted one. -/
def shown (owner name : Text) : Text :=
  if name.takeWhile (· ≠ '.') = [] then unknown else owner ++ '/' :: name.takeWhile (· ≠ '.')

/-- An address names its host, a mark, the owner and the repository, with an ending or without. -/
theorem eq_of_mem_addresses (h : address ∈ addresses owner name) :
    ∃ (front : Text) (mark : Char) (ending : Text),
      (front = "git@" ∨ front = "https://") ∧ (mark = ':' ∨ mark = '/') ∧
      (ending = ".git" ∨ ending = []) ∧
      address = front ++ ("github.com" ++ mark :: (owner ++ '/' :: (name ++ ending))) := by
  simp only [addresses, List.mem_cons, List.not_mem_nil, or_false] at h
  rcases h with rfl | rfl | rfl
  · exact ⟨"git@", ':', ".git", .inl rfl, .inl rfl, .inl rfl, by simp⟩
  · exact ⟨"https://", '/', ".git", .inr rfl, .inr rfl, .inl rfl, by simp⟩
  · exact ⟨"https://", '/', [], .inr rfl, .inr rfl, .inr rfl, by simp⟩

/-! ## Where a repository is named -/

theorem named?_cons (h : namedAt? (c :: t) = none) : named? (c :: t) = named? t := by
  rw [named?, h]

/-- The search reaches the host. -/
theorem named?_front {front : Text} (h : front = "git@" ∨ front = "https://") (t : Text) :
    named? (front ++ ("github.com" ++ t)) = named? ("github.com" ++ t) := by
  rcases h with rfl | rfl
  · rfl
  · rfl

/-- The search ends at the first place where a repository is named. -/
theorem named?_of_namedAt? {repository : Text} (h : namedAt? t = some repository) :
    named? t = some repository := by
  cases t with
  | nil => exact nomatch h
  | cons c t => rw [named?, h]

/-- Behind a host that names nothing the search goes on behind its mark. -/
theorem named?_host {mark : Char} (hmark : mark = ':' ∨ mark = '/')
    (h : namedAt? ("github.com" ++ mark :: t) = none) :
    named? ("github.com" ++ mark :: t) = named? t := by
  have hrest : named? ("github.com" ++ mark :: t) = named? ("ithub.com" ++ mark :: t) :=
    named?_cons h
  rw [hrest]
  rcases hmark with rfl | rfl
  · rfl
  · rfl

theorem namedAt?_eq_none (h : dropPrefix? "github.com" t = none) : namedAt? t = none := by
  rw [namedAt?, h]
  rfl

/-- No host begins in what holds no dot before a slash. -/
theorem named?_append_slash {u : Text} (hdot : '.' ∉ u) (t : Text) :
    named? (u ++ '/' :: t) = named? t := by
  induction u with
  | nil => exact named?_cons (namedAt?_eq_none (dropPrefix?_eq_none_of_head (by decide) _ _))
  | cons c u ih =>
      have hnone : dropPrefix? "github.com" (c :: u) = none := by
        refine Option.eq_none_iff_forall_ne_some.mpr fun rest hrest => hdot ?_
        rw [dropPrefix?_eq_some_iff.mp hrest]
        exact List.mem_append_left _ (by decide)
      have hslash : '/' ∉ ("github.com" : Text) := by decide
      rw [List.cons_append, named?_cons, ih fun hmem => hdot (List.mem_cons_of_mem c hmem)]
      refine namedAt?_eq_none ?_
      rw [← List.cons_append, dropPrefix?_append_cons hslash, hnone]
      rfl

/-- No repository is named where neither a colon nor a slash follows. -/
theorem named?_eq_none (hcolon : ':' ∉ t) (hslash : '/' ∉ t) : named? t = none := by
  induction t with
  | nil => rfl
  | cons c t ih =>
      have hnone : namedAt? (c :: t) = none := by
        refine Option.eq_none_iff_forall_ne_some.mpr fun found hfound => ?_
        obtain ⟨behind, hhost, hfound⟩ := Option.bind_eq_some_iff.mp hfound
        obtain ⟨path, hmark, -⟩ := Option.bind_eq_some_iff.mp hfound
        have hsplit : c :: t = "github.com" ++ behind := dropPrefix?_eq_some_iff.mp hhost
        rw [hsplit, List.mem_append, not_or] at hcolon hslash
        rcases Option.or_eq_some_iff.mp hmark with hmark | ⟨-, hmark⟩
        · rw [dropPrefix?_eq_some_iff.mp hmark] at hcolon
          exact hcolon.2 List.mem_cons_self
        · rw [dropPrefix?_eq_some_iff.mp hmark] at hslash
          exact hslash.2 List.mem_cons_self
      rw [named?_cons hnone]
      exact ih (fun h => hcolon (List.mem_cons_of_mem c h)) fun h =>
        hslash (List.mem_cons_of_mem c h)

/-! ## What is cut out of an address -/

/-- At a host the owner is what stands before the next slash, and the name what can stand in one. -/
theorem namedAt?_host {mark : Char} (hmark : mark = ':' ∨ mark = '/') (howner : owner ≠ [])
    (hslash : '/' ∉ owner) (t : Text) :
    namedAt? ("github.com" ++ mark :: (owner ++ '/' :: t))
      = if t.takeWhile isNameChar = [] then none
        else some (owner ++ '/' :: t.takeWhile isNameChar) := by
  have hin : ∀ c ∈ owner, decide (c ≠ '/') = true := by
    intro c hc
    simpa using fun h : c = '/' => hslash (h ▸ hc)
  have hstop : decide ('/' ≠ '/') = false := by decide
  have hbehind : ((dropPrefix? [':'] (mark :: (owner ++ '/' :: t))).or
      (dropPrefix? ['/'] (mark :: (owner ++ '/' :: t)))) = some (owner ++ '/' :: t) := by
    rcases hmark with rfl | rfl
    · exact Option.or_of_isSome rfl
    · exact dropPrefix?_append ['/'] (owner ++ '/' :: t)
  have hpath : dropPrefix? ['/'] ('/' :: t) = some t := dropPrefix?_append ['/'] t
  rw [namedAt?, dropPrefix?_append]
  simp only [Option.bind_eq_bind, Option.bind_some, hbehind, takeWhile_eq_left hin hstop,
    dropWhile_eq_right hin hstop, hpath, howner, false_or]

/-- A character of a hosted name is no white space. -/
theorem isSpace_of_isHostedChar (h : isHostedChar c = true) : isSpace c = false := by
  simp only [isHostedChar, Bool.or_eq_true, decide_eq_true_eq] at h
  rcases h with ((h | rfl) | rfl) | rfl
  · exact isSpace_of_isWord (isWord_of_isAlphanum h)
  · decide
  · decide
  · decide

/-- What may stand in the name of an owner may stand in that of a repository. -/
theorem isHostedChar_of_isOwnerChar (h : isOwnerChar c = true) : isHostedChar c = true := by
  simp only [isOwnerChar, Bool.or_eq_true, decide_eq_true_eq] at h
  rcases h with h | rfl
  · simp [isHostedChar, h]
  · decide

/-- A character of a hosted name can stand in the name that is read, unless it is a dot. -/
theorem isNameChar_of_isHostedChar (h : isHostedChar c = true) (hdot : c ≠ '.') :
    isNameChar c = true := by
  have hslash : c ≠ '/' := ne_of_class h (by decide)
  simp [isNameChar, hslash, hdot, isSpace_of_isHostedChar h]

/-- Of a hosted name with an ending what stands before the first dot of the name is read. -/
theorem takeWhile_isNameChar {ending : Text} (hname : ∀ c ∈ name, isHostedChar c = true)
    (hending : ending = ".git" ∨ ending = []) :
    (name ++ ending).takeWhile isNameChar = name.takeWhile (· ≠ '.') := by
  induction name with
  | nil => rcases hending with rfl | rfl <;> rfl
  | cons c name ih =>
      obtain ⟨hc, hname⟩ := List.forall_mem_cons.mp hname
      rw [List.cons_append]
      by_cases hdot : c = '.'
      · subst hdot
        rfl
      · have hkeep : decide (c ≠ '.') = true := decide_eq_true hdot
        rw [List.takeWhile_cons_of_pos (isNameChar_of_isHostedChar hc hdot), ih hname,
          List.takeWhile_cons, if_pos hkeep]

/-- No mark stands in a hosted name with its ending. -/
theorem not_mem_hosted {ending : Text} (hname : ∀ c ∈ name, isHostedChar c = true)
    (hending : ending = ".git" ∨ ending = []) (hc : isHostedChar c = false) :
    c ∉ name ++ ending := by
  have hchars : ∀ d ∈ ending, isHostedChar d = true := by
    rcases hending with rfl | rfl <;> decide
  intro hmem
  rcases List.mem_append.mp hmem with hmem | hmem
  · exact ne_of_class (hname c hmem) hc rfl
  · exact ne_of_class (hchars c hmem) hc rfl

/-- The repository that an address of a hosted one names, up to the first dot of its name; none is
found when there is nothing before the dot. -/
theorem named?_address (h : IsHosted owner name) (haddress : address ∈ addresses owner name) :
    (named? address).getD unknown = shown owner name := by
  obtain ⟨front, mark, ending, hfront, hmark, hending, rfl⟩ := eq_of_mem_addresses haddress
  have howner : ∀ {d : Char}, isOwnerChar d = false → d ∉ owner := fun hd hmem =>
    ne_of_class (h.owner_chars _ hmem) hd rfl
  have hread := namedAt?_host hmark h.owner_ne_nil (howner (d := '/') (by decide)) (name ++ ending)
  rw [takeWhile_isNameChar h.name_chars hending] at hread
  rw [named?_front hfront, shown]
  split
  · next hcut =>
      rw [if_pos hcut] at hread
      -- the rest of the address holds no other host
      rw [named?_host hmark hread, named?_append_slash (howner (by decide)),
        named?_eq_none (not_mem_hosted h.name_chars hending (by decide))
          (not_mem_hosted h.name_chars hending (by decide)), Option.getD_none]
  · next hcut =>
      rw [if_neg hcut] at hread
      rw [named?_of_namedAt? hread, Option.getD_some]

/-- No dot is shown. -/
theorem dot_not_mem_shown (h : IsHosted owner name) : '.' ∉ shown owner name := by
  have howner : '.' ∉ owner := fun hmem => absurd (h.owner_chars '.' hmem) (by decide)
  have hcut : '.' ∉ name.takeWhile (· ≠ '.') := fun hmem =>
    absurd (List.mem_takeWhile_imp hmem) (by decide)
  rw [shown]
  split
  · decide
  · rw [List.mem_append, List.mem_cons, not_or, not_or]
    exact ⟨howner, by decide, hcut⟩

/-- The repository that is shown is the one that is hosted exactly if its name holds no dot. -/
theorem shown_eq_iff (h : IsHosted owner name) :
    shown owner name = owner ++ '/' :: name ↔ '.' ∉ name := by
  constructor
  · intro heq hdot
    refine dot_not_mem_shown h ?_
    rw [heq]
    exact List.mem_append_right _ (List.mem_cons_of_mem _ hdot)
  · intro hdot
    have hwhole : name.takeWhile (· ≠ '.') = name := by
      refine List.takeWhile_eq_self_iff.mpr fun c hc => ?_
      simpa using fun hcdot : c = '.' => hdot (hcdot ▸ hc)
    rw [shown, hwhole, if_neg h.name_ne_nil]

/-- An address holds no white space. -/
theorem isSpace_of_mem_address (h : IsHosted owner name)
    (haddress : address ∈ addresses owner name) : ∀ c ∈ address, isSpace c = false := by
  obtain ⟨front, mark, ending, hfront, hmark, hending, rfl⟩ := eq_of_mem_addresses haddress
  have howner : ∀ c ∈ owner, isSpace c = false := fun c hc =>
    isSpace_of_isHostedChar (isHostedChar_of_isOwnerChar (h.owner_chars c hc))
  have hname : ∀ c ∈ name, isSpace c = false := fun c hc =>
    isSpace_of_isHostedChar (h.name_chars c hc)
  simp only [List.forall_mem_append, List.forall_mem_cons]
  refine ⟨?_, by decide, ?_, howner, by decide, hname, ?_⟩
  · rcases hfront with rfl | rfl <;> decide
  · rcases hmark with rfl | rfl <;> decide
  · rcases hending with rfl | rfl <;> decide

/-- An address that is printed for a question is its answer. -/
theorem answer?_of_prints {git : Git} {q : GitQuery} (h : IsHosted owner name)
    (haddress : address ∈ addresses owner name) (hgit : git.Prints q address) :
    git.answer? q = some address := by
  have hspace := isSpace_of_mem_address h haddress
  have hne : address ≠ [] := by
    obtain ⟨front, mark, ending, -, -, -, rfl⟩ := eq_of_mem_addresses haddress
    exact List.append_ne_nil_of_right_ne_nil _ (List.cons_ne_nil _ _)
  refine hgit.answer?_eq hne ?_ fun hreturn => absurd (hspace _ hreturn) (by decide)
  exact trim_eq_self (fun c hc => hspace c (List.mem_of_mem_head? hc))
    fun c hc => hspace c (List.mem_of_mem_getLast? hc)

end Repository

namespace CheckoutOptions

open Repository

/-- Where no repository is chosen and the version control program prints an address of a hosted one
for the origin, the repository is the hosted one with its name cut before the first dot, so exactly
the hosted one if its name holds no dot; with nothing before the first dot it is the one that stands
for an unknown repository.  The source of every module names the same. -/
theorem repositoryName_of_address {o : CheckoutOptions} {w : Workspace}
    {owner name address : Text} (hchosen : o.repository = none ∨ o.repository = some [])
    (hhosted : IsHosted owner name) (haddress : address ∈ addresses owner name)
    (hgit : w.git.Prints .originUrl address) :
    o.repositoryName w = shown owner name ∧
      (o.repositoryName w = owner ++ '/' :: name ↔ '.' ∉ name) ∧
      ∀ tag directory, Checkout.moduleSource ⟨o, tag⟩ w directory
        = (Checkout.modulePath w directory).map fun path =>
          "git::https://github.com/" ++ shown owner name ++ ".git//" ++ path ++ "?ref=" ++
            Checkout.latestTag ⟨o, tag⟩ w := by
  have hname : o.repositoryName w = shown owner name := by
    rw [repositoryName, answer?_of_prints hhosted haddress hgit]
    rcases hchosen with hchosen | hchosen
    · rw [hchosen]
      exact named?_address hhosted haddress
    · rw [hchosen]
      exact named?_address hhosted haddress
  refine ⟨hname, ?_, fun tag directory => ?_⟩
  · rw [hname]
    exact shown_eq_iff hhosted
  · rw [Checkout.moduleSource, hname]

/-- A repository whose name holds no dot, one whose name holds one, and one whose name begins with
one. -/
theorem repositoryName_of_address_dotted :
    let o : CheckoutOptions := {}
    let w (printed : Text) : Workspace :=
      { tree := .empty, cwd := [], git := fun _ => some printed, chat := fun _ => .noChoices }
    o.repositoryName (w "git@github.com:acme/my_repo-2.git\n") = "acme/my_repo-2" ∧
      o.repositoryName (w "https://github.com/acme/my.repo\r\n") = "acme/my" ∧
      o.repositoryName (w "https://github.com/acme/.github.git") = "owner/repo" := by
  intro o w
  have hplain := @repositoryName_of_address o (w "git@github.com:acme/my_repo-2.git\n") "acme"
    "my_repo-2" "git@github.com:acme/my_repo-2.git" (.inl rfl)
    ⟨by decide, by decide, by decide, by decide⟩ (by decide)
    ⟨[], ['\n'], rfl, by decide, by decide⟩
  have hdotted := @repositoryName_of_address o (w "https://github.com/acme/my.repo\r\n") "acme"
    "my.repo" "https://github.com/acme/my.repo" (.inl rfl)
    ⟨by decide, by decide, by decide, by decide⟩ (by decide)
    ⟨[], "\r\n", rfl, by decide, by decide⟩
  have hhidden := @repositoryName_of_address o (w "https://github.com/acme/.github.git") "acme"
    ".github" "https://github.com/acme/.github.git" (.inl rfl)
    ⟨by decide, by decide, by decide, by decide⟩ (by decide) ⟨[], [], rfl, by decide, by decide⟩
  exact ⟨hplain.2.1.mpr (by decide), hdotted.1, hhidden.1⟩

end CheckoutOptions

end ModuleDocs
