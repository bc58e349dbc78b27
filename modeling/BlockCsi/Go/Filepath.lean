import BlockCsi.Go.Strings

/-!
# Go `path/filepath` on Linux

`filepath.Base`, `filepath.Clean`, `filepath.Join` and the pattern language of `filepath.Match`,
with the separator `/`. A pattern is parsed into terms first: a malformed pattern is
`ErrBadPattern` whatever the name, as the package documents. `globMatches` says which paths
`filepath.Glob` may list for a pattern: it matches element by element.

`Match` here works on runes. Go's star loop instead retries the rest of the pattern at every byte
offset of the name, also inside a multi-byte rune, where the next rune decodes as U+FFFD: a term
after a star that matches U+FFFD (`?`, a negated class, a range that holds it) can then match part
of a rune, and Go's `Match("*[^é]", "é")` is true where this one is false. On the driver's
patterns, with an IQN free of metacharacters, every star ends its element or is followed by
literal text, which cannot match from inside a rune, so the two agree there.
-/

set_option autoImplicit false

namespace BlockCsi.Go

/-- `filepath.Base`: the last element of `path`, trailing separators dropped; `"."` for the empty
path and `"/"` for a path of separators only. -/
def base (path : String) : String :=
  if path.data = [] then "." else
    match path.data.reverse.dropWhile (· = '/') with
    | [] => "/"
    | trimmed => ⟨(trimmed.takeWhile (· ≠ '/')).reverse⟩

/-- One element of `filepath.Clean`'s scan, with the elements kept so far, last first: empty and
`.` elements go; `..` removes the element before it, goes at the root, and stays at the front of
a relative path. -/
def cleanStep (rooted : Bool) (kept : List (List Char)) (elem : List Char) : List (List Char) :=
  if elem = [] ∨ elem = ['.'] then kept
  else if elem = ['.', '.'] then
    match kept with
    | last :: earlier => if last = ['.', '.'] then elem :: kept else earlier
    | [] => if rooted then [] else [elem]
  else elem :: kept

/-- `filepath.Clean`: the shortest lexically equivalent path. -/
def clean (path : String) : String :=
  let rooted := path.data.head? = some '/'
  let body := ['/'].intercalate ((path.data.splitOn '/').foldl (cleanStep rooted) []).reverse
  if rooted then ⟨'/' :: body⟩ else if body = [] then "." else ⟨body⟩

/-- `filepath.Join`: the elements from the first non-empty one, joined by separators and
cleaned; `""` when every element is empty. -/
def join (elems : List String) : String :=
  match elems.dropWhile (· = "") with
  | [] => ""
  | kept => clean ("/".intercalate kept)

/-- One term of a `filepath.Match` pattern: `*`, any run of non-separator runes; `?`, one
non-separator rune; a rune, as itself or after a backslash; and `[...]` or `[^...]`, one rune
inside, or outside, the ranges. -/
inductive Term where
  | star
  | any
  | rune (c : Char)
  | range (negated : Bool) (ranges : List (Char × Char))
  deriving DecidableEq, Repr

/-- `getEsc`: one bound of a class range, after an optional backslash. The class must go on
after it. -/
def getEsc : List Char → Option (Char × List Char)
  | [] | '-' :: _ | ']' :: _ | ['\\'] => none
  | '\\' :: c :: rest | c :: rest => if rest = [] then none else some (c, rest)

/-- The ranges of a class up to its closing `]`, the ones read so far in `ranges`, last first. -/
def classRanges : Nat → List Char → List (Char × Char) → Option (List (Char × Char) × List Char)
  | 0, _, _ => none
  | fuel + 1, cs, ranges =>
    match cs, ranges with
    | ']' :: rest, _ :: _ => some (ranges.reverse, rest)
    | _, _ => (getEsc cs).bind fun (lo, cs) =>
      match cs with
      | '-' :: cs => (getEsc cs).bind fun (hi, cs) => classRanges fuel cs ((lo, hi) :: ranges)
      | _ => classRanges fuel cs ((lo, lo) :: ranges)

/-- The terms of a pattern; `none` is `ErrBadPattern`. Each term takes at least one rune, so
the length of the pattern is fuel enough. -/
def parseTerms : Nat → List Char → Option (List Term)
  | _, [] => some []
  | 0, _ :: _ => none
  | fuel + 1, '*' :: rest => (Term.star :: ·) <$> parseTerms fuel rest
  | fuel + 1, '?' :: rest => (Term.any :: ·) <$> parseTerms fuel rest
  | _ + 1, ['\\'] => none
  | fuel + 1, '\\' :: c :: rest => (Term.rune c :: ·) <$> parseTerms fuel rest
  | fuel + 1, '[' :: rest =>
    let (negated, rest) := match rest with
      | '^' :: rest => (true, rest)
      | rest => (false, rest)
    (classRanges fuel rest []).bind fun (ranges, rest) =>
      (Term.range negated ranges :: ·) <$> parseTerms fuel rest
  | fuel + 1, c :: rest => (Term.rune c :: ·) <$> parseTerms fuel rest

/-- Whether a term other than `*` matches one rune. -/
def Term.matchesRune : Term → Char → Bool
  | .any, c => c != '/'
  | .rune r, c => c == r
  | .range negated ranges, c => (ranges.any fun (lo, hi) => lo ≤ c && c ≤ hi) != negated
  | .star, _ => false

/-- A `*` followed by terms whose matcher is `rest`: the star takes a run of non-separator runes. -/
def matchStar (rest : List Char → Bool) : List Char → Bool
  | [] => rest []
  | c :: cs => rest (c :: cs) || (c != '/' && matchStar rest cs)

/-- Whether the terms match the whole name. -/
def matchTerms : List Term → List Char → Bool
  | [], name => name = []
  | .star :: terms, name => matchStar (matchTerms terms) name
  | term :: terms, c :: name => term.matchesRune c && matchTerms terms name
  | _ :: _, [] => false

/-- `filepath.Match`; `none` is `ErrBadPattern`. -/
def filepathMatch (pattern name : List Char) : Option Bool :=
  (parseTerms pattern.length pattern).map fun terms => matchTerms terms name

/-- Element by element, whether each pattern element matches the name's element. -/
def elementsMatch : List (List Char) → List (List Char) → Bool
  | [], [] => true
  | elem :: elems, name :: names => filepathMatch elem name == some true && elementsMatch elems names
  | _, _ => false

/-- Whether `filepath.Glob pattern` may list `path`: both have the same elements count, and each
element of the path matches the pattern's. -/
def globMatches (pattern path : String) : Bool :=
  elementsMatch (pattern.data.splitOn '/') (path.data.splitOn '/')

/-! ## Literal patterns

A pattern text with no metacharacter parses to its runes and matches itself only; a `*` between
two such texts matches any run of non-separator runes. -/

/-- A pattern text with no metacharacter and no separator. -/
def Literal (s : List Char) : Prop :=
  ∀ c ∈ s, c ≠ '*' ∧ c ≠ '?' ∧ c ≠ '[' ∧ c ≠ '\\' ∧ c ≠ '/'

instance (s : List Char) : Decidable (Literal s) := inferInstanceAs (Decidable (∀ c ∈ s, _))

@[simp] theorem literal_append (s t : List Char) : Literal (s ++ t) ↔ Literal s ∧ Literal t :=
  List.forall_mem_append

theorem Literal.sep_not_mem {s : List Char} (literal : Literal s) : '/' ∉ s :=
  fun member => (literal '/' member).2.2.2.2 rfl

theorem literal_of_digits (s : List Char) (digits : ∀ c ∈ s, c.isDigit = true) : Literal s :=
  fun c member => by
    have digit := digits c member
    refine ⟨?_, ?_, ?_, ?_, ?_⟩ <;> rintro rfl <;> revert digit <;> decide

/-- Runes that are not metacharacters parse to themselves, a separator among them. -/
theorem parseTerms_runes_append (s rest : List Char)
    (plain : ∀ c ∈ s, c ≠ '*' ∧ c ≠ '?' ∧ c ≠ '[' ∧ c ≠ '\\') (fuel : Nat) :
    parseTerms (fuel + s.length) (s ++ rest) = (s.map .rune ++ ·) <$> parseTerms fuel rest := by
  induction s with
  | nil => simp
  | cons c s ih =>
    obtain ⟨star, any, bracket, backslash⟩ := plain c (by simp)
    rw [List.length_cons, ← Nat.add_assoc]
    simp [parseTerms, star, any, bracket, backslash, ih fun d member => plain d (by simp [member]),
      Function.comp_def]

theorem parseTerms_literal_append (s rest : List Char) (literal : Literal s) (fuel : Nat) :
    parseTerms (fuel + s.length) (s ++ rest) = (s.map .rune ++ ·) <$> parseTerms fuel rest :=
  parseTerms_runes_append s rest (fun c member =>
    let ⟨star, any, bracket, backslash, _⟩ := literal c member
    ⟨star, any, bracket, backslash⟩) fuel

theorem parseTerms_literal (s : List Char) (literal : Literal s) :
    parseTerms s.length s = some (s.map .rune) := by
  simpa [parseTerms] using parseTerms_literal_append s [] literal 0

theorem matchTerms_runes (s name : List Char) :
    matchTerms (s.map .rune) name = decide (name = s) := by
  induction s generalizing name with
  | nil => rfl
  | cons c s ih =>
    cases name with
    | nil => rfl
    | cons d name => by_cases same : d = c <;> simp [matchTerms, Term.matchesRune, ih, same]

theorem matchTerms_runes_append (s name : List Char) (terms : List Term) :
    matchTerms (s.map .rune ++ terms) name = true ↔
      ∃ rest, name = s ++ rest ∧ matchTerms terms rest = true := by
  induction s generalizing name with
  | nil => simp
  | cons c s ih =>
    cases name with
    | nil => simp [matchTerms]
    | cons d name => by_cases same : d = c <;> simp [matchTerms, Term.matchesRune, ih, same]

theorem matchStar_iff (rest : List Char → Bool) (name : List Char) :
    matchStar rest name = true ↔ ∃ pre suf, name = pre ++ suf ∧ '/' ∉ pre ∧ rest suf = true := by
  induction name with
  | nil => simp [matchStar, and_assoc]
  | cons c name ih =>
    simp only [matchStar, Bool.or_eq_true, Bool.and_eq_true, bne_iff_ne, ne_eq, ih]
    constructor
    · rintro (matched | ⟨notSep, pre, suf, rfl, sepFree, matched⟩)
      · exact ⟨[], c :: name, rfl, by simp, matched⟩
      · exact ⟨c :: pre, suf, rfl, by simp [sepFree, Ne.symm notSep], matched⟩
    · rintro ⟨pre, suf, split, sepFree, matched⟩
      cases pre with
      | nil => simp_all
      | cons d pre =>
        simp only [List.cons_append, List.cons.injEq] at split
        obtain ⟨rfl, rfl⟩ := split
        simp only [List.mem_cons, not_or] at sepFree
        exact .inr ⟨Ne.symm sepFree.1, pre, suf, rfl, sepFree.2, matched⟩

theorem filepathMatch_literal (s name : List Char) (literal : Literal s) :
    filepathMatch s name = some (decide (name = s)) := by
  simp [filepathMatch, parseTerms_literal s literal, matchTerms_runes]

/-- A literal, a `*` and a literal match the names that start and end with the two literals, with
no separator between them. -/
theorem filepathMatch_star_iff (pre s name : List Char) (literalPre : Literal pre)
    (literal : Literal s) :
    filepathMatch (pre ++ '*' :: s) name = some true ↔
      ∃ middle, '/' ∉ middle ∧ name = pre ++ middle ++ s := by
  have parsed : parseTerms (pre ++ '*' :: s).length (pre ++ '*' :: s) =
      some (pre.map .rune ++ .star :: s.map .rune) := by
    rw [List.length_append, Nat.add_comm, parseTerms_literal_append _ _ literalPre]
    simp [parseTerms, parseTerms_literal s literal]
  simp only [filepathMatch, parsed, Option.map_some', Option.some.injEq, matchTerms_runes_append,
    matchTerms, matchStar_iff, matchTerms_runes, decide_eq_true_eq]
  constructor
  · rintro ⟨rest, rfl, middle, suf, rfl, sepFree, rfl⟩
    exact ⟨middle, sepFree, by simp⟩
  · rintro ⟨middle, sepFree, rfl⟩
    exact ⟨middle ++ s, by simp, middle, s, rfl, sepFree, rfl⟩

/-- Against literal elements followed by one last pattern, the names must be those literals
followed by one name that the last pattern matches. -/
theorem elementsMatch_literals_iff (literals : List (List Char))
    (allLiteral : ∀ l ∈ literals, Literal l) (last : List Char) (names : List (List Char)) :
    elementsMatch (literals ++ [last]) names = true ↔
      ∃ name, names = literals ++ [name] ∧ filepathMatch last name = some true := by
  induction literals generalizing names with
  | nil =>
    match names with
    | [] => simp [elementsMatch]
    | [name] => simp [elementsMatch]
    | _ :: _ :: _ => simp [elementsMatch]
  | cons literal literals ih =>
    cases names with
    | nil => simp [elementsMatch]
    | cons name names =>
      simp [elementsMatch, filepathMatch_literal _ _ (allLiteral literal (by simp)),
        ih (fun l member => allLiteral l (by simp [member])), and_assoc, exists_and_left]

/-- A path a rooted pattern matches is rooted. -/
theorem globMatches_rooted (pattern path : String) (rooted : pattern.data.head? = some '/')
    (matched : globMatches pattern path = true) : path.data.head? = some '/' := by
  obtain ⟨rest, patternData⟩ : ∃ rest, pattern.data = '/' :: rest := by
    cases h : pattern.data with
    | nil => simp [h] at rooted
    | cons c rest => simp [h] at rooted; exact ⟨rest, by rw [rooted]⟩
  have patternSplit : pattern.data.splitOn '/' = [] :: rest.splitOn '/' := by
    rw [patternData]; rfl
  unfold globMatches at matched
  rw [patternSplit] at matched
  have rebuilt : ['/'].intercalate (path.data.splitOn '/') = path.data := List.intercalate_splitOn path.data '/'
  have nonempty : path.data.splitOn '/' ≠ [] := List.splitOnP_ne_nil _ _
  cases split : path.data.splitOn '/' with
  | nil => exact absurd split nonempty
  | cons first others =>
    rw [split] at matched rebuilt
    have restNonempty := List.splitOnP_ne_nil (· == '/') rest
    cases others with
    | nil =>
      cases splitRest : rest.splitOn '/' with
      | nil => exact absurd splitRest restNonempty
      | cons _ _ => simp [splitRest, elementsMatch] at matched
    | cons second others =>
      simp only [elementsMatch, filepathMatch_literal [] first (by simp [Literal]), Bool.and_eq_true,
        beq_iff_eq, Option.some.injEq, decide_eq_true_eq] at matched
      rw [← rebuilt, matched.1]
      simp [List.intercalate]

theorem clean_ne_empty (path : String) : clean path ≠ "" := by
  simp only [clean]
  split_ifs <;> simp_all [String.ext_iff]

theorem join_dev_ne_empty (name : String) : join ["/dev", name] ≠ "" := by
  simp only [join, List.dropWhile_cons]
  exact clean_ne_empty _

theorem clean_rooted (path : String) (rooted : path.data.head? = some '/') :
    (clean path).data.head? = some '/' := by
  simp [clean, rooted]

theorem join_dev_rooted (name : String) : (join ["/dev", name]).data.head? = some '/' := by
  simp only [join, List.dropWhile_cons]
  exact clean_rooted _ (by simp [String.intercalate, String.intercalate.go])

/-! ## Parsing a concatenation

Two texts that parse parse one after the other: a term never reaches past the end of its text,
and a text whose class is closed needs no more runes. -/

/-- `getEsc` by its first rune: `-` and `]` refuse, a backslash escapes the next rune, and the
class must go on after the bound. -/
theorem getEsc_cons (c : Char) (cs : List Char) :
    getEsc (c :: cs) =
      if c = '-' ∨ c = ']' then none
      else if c = '\\' then
        match cs with
        | [] => none
        | d :: rest => if rest = [] then none else some (d, rest)
      else if cs = [] then none else some (c, cs) := by
  by_cases dash : c = '-'
  · subst dash; rfl
  by_cases close : c = ']'
  · subst close; rfl
  by_cases slash : c = '\\'
  · subst slash
    rcases cs with _ | ⟨d, rest⟩ <;> rfl
  · rcases cs with _ | ⟨d, rest⟩ <;> simp [getEsc, dash, close, slash]

theorem getEsc_append {cs ys rest : List Char} {c : Char} (escaped : getEsc cs = some (c, rest)) :
    getEsc (cs ++ ys) = some (c, rest ++ ys) ∧ rest ≠ [] := by
  rcases cs with _ | ⟨d, cs⟩
  · cases escaped
  · rw [getEsc_cons] at escaped
    rw [List.cons_append, getEsc_cons]
    by_cases slash : d = '\\'
    · rcases cs with _ | ⟨e, cs⟩
      · simp_all
      · by_cases empty : cs = [] <;> simp_all
    · by_cases empty : cs = []
      · simp_all
      · have bound : ¬(d = '-' ∨ d = ']') := fun bound => by simp [bound] at escaped
        simp only [bound, slash, empty, if_false, Option.some.injEq, Prod.mk.injEq] at escaped
        obtain ⟨rfl, rfl⟩ := escaped
        simp [bound, slash, empty]

theorem classRanges_append {cs ys rest : List Char} {ranges found : List (Char × Char)}
    (fuel k : Nat) (closed : classRanges fuel cs ranges = some (found, rest)) :
    classRanges (fuel + k) (cs ++ ys) ranges = some (found, rest ++ ys) := by
  induction fuel generalizing cs ranges with
  | zero => cases closed
  | succ fuel ih =>
    rw [Nat.succ_add]
    rcases cs with _ | ⟨d, cs⟩
    · rw [classRanges.eq_3 _ _ _ (by simp)] at closed
      cases closed
    by_cases ends : d = ']' ∧ ranges ≠ []
    · obtain ⟨rfl, nonempty⟩ := ends
      obtain ⟨head, tail, rfl⟩ := List.exists_cons_of_ne_nil nonempty
      simp_all [classRanges]
    have other (zs : List Char) :
        ∀ more head tail, d :: zs = ']' :: more → ranges = head :: tail → False := by
      rintro more head tail same rfl
      exact ends ⟨(List.cons.inj same).1, List.cons_ne_nil _ _⟩
    rw [classRanges.eq_3 _ _ _ (other cs)] at closed
    rw [List.cons_append, classRanges.eq_3 _ _ _ (other _)]
    obtain ⟨⟨lo, after⟩, escaped, next⟩ := Option.bind_eq_some.mp closed
    obtain ⟨appended, more⟩ := @getEsc_append _ ys _ _ escaped
    rw [← List.cons_append, appended, Option.some_bind]
    obtain ⟨e, after, rfl⟩ := List.exists_cons_of_ne_nil more
    dsimp only at next ⊢
    by_cases dash : e = '-'
    · subst dash
      obtain ⟨⟨hi, after'⟩, escaped', next'⟩ := Option.bind_eq_some.mp next
      simp only [List.cons_append, (getEsc_append escaped').1, Option.some_bind]
      exact ih next'
    · split at next
      · simp_all
      · simp only [List.cons_append]
        split
        · simp_all
        · exact ih next

/-- Two texts that parse parse together, the terms one after the other; more fuel changes
nothing. -/
theorem parseTerms_append {xs ys : List Char} {t u : List Term} {g : Nat}
    (ysParsed : ∀ k, parseTerms (g + k) ys = some u) (fuel : Nat)
    (parsed : parseTerms fuel xs = some t) (k : Nat) :
    parseTerms (fuel + g + k) (xs ++ ys) = some (t ++ u) := by
  induction fuel generalizing xs t with
  | zero =>
    rcases xs with _ | ⟨c, cs⟩
    · cases parsed
      simpa using ysParsed k
    · cases parsed
  | succ fuel ih =>
    rcases xs with _ | ⟨c, cs⟩
    · cases parsed
      rw [show fuel + 1 + g + k = g + (fuel + 1 + k) by omega]
      exact ysParsed _
    rw [show fuel + 1 + g + k = (fuel + g + k) + 1 by omega, List.cons_append]
    by_cases star : c = '*'
    · subst star
      simp only [parseTerms, Functor.map, Option.map_eq_some'] at parsed ⊢
      obtain ⟨t', parsed', rfl⟩ := parsed
      exact ⟨_, ih parsed', rfl⟩
    by_cases any : c = '?'
    · subst any
      simp only [parseTerms, Functor.map, Option.map_eq_some'] at parsed ⊢
      obtain ⟨t', parsed', rfl⟩ := parsed
      exact ⟨_, ih parsed', rfl⟩
    by_cases slash : c = '\\'
    · subst slash
      rcases cs with _ | ⟨d, cs⟩
      · simp [parseTerms] at parsed
      · simp only [parseTerms, Functor.map, Option.map_eq_some', List.cons_append] at parsed ⊢
        obtain ⟨t', parsed', rfl⟩ := parsed
        exact ⟨_, ih parsed', rfl⟩
    by_cases bracket : c = '['
    · subst bracket
      have classAppend (negated : Bool) (body : List Char)
          (parsed : ((classRanges fuel body []).bind fun (ranges, rest) =>
            (Term.range negated ranges :: ·) <$> parseTerms fuel rest) = some t) :
          ((classRanges (fuel + g + k) (body ++ ys) []).bind fun (ranges, rest) =>
            (Term.range negated ranges :: ·) <$> parseTerms (fuel + g + k) rest) =
            some (t ++ u) := by
        obtain ⟨⟨ranges, rest⟩, closed, parsed⟩ := Option.bind_eq_some.mp parsed
        simp only [Functor.map, Option.map_eq_some'] at parsed
        obtain ⟨t', parsed', rfl⟩ := parsed
        rw [Nat.add_assoc, classRanges_append fuel (g + k) closed, ← Nat.add_assoc,
          Option.some_bind]
        simp only [Functor.map, ih parsed', Option.map_some', List.cons_append]
      rcases cs with _ | ⟨e, cs⟩
      · cases fuel <;> simp [parseTerms, classRanges, getEsc] at parsed
      by_cases negated : e = '^'
      · subst negated
        simp only [parseTerms, List.cons_append] at parsed ⊢
        exact classAppend true cs parsed
      · have plain (zs : List Char) : ∀ rest, e :: zs = '^' :: rest → False :=
          fun _ same => negated (List.cons.inj same).1
        rw [parseTerms.eq_8 _ _ (plain cs)] at parsed
        rw [List.cons_append, parseTerms.eq_8 _ _ (plain _)]
        exact classAppend false (e :: cs) parsed
    rw [parseTerms.eq_9 _ _ _ star any (fun h => absurd h slash) (fun _ _ h => absurd h slash)
      bracket] at parsed ⊢
    simp only [Functor.map, Option.map_eq_some'] at parsed ⊢
    obtain ⟨t', parsed', rfl⟩ := parsed
    exact ⟨_, ih parsed', rfl⟩

end BlockCsi.Go
