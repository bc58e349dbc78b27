import BlockCsi.Node.Rescan

/-!
# The by-path glob of `GetMpathDevice`

`/dev/disk/by-path/ip*-iscsi-<iqn>-lun-<lun>` lists the entries of `/dev/disk/by-path` that start
with `ip` and end with `-iscsi-<iqn>-lun-<lun>`. For a link `ip-<portal>-iscsi-<target>-lun-<n>`
with a portal free of `-`, the pattern's literal end must be a suffix of the link's name: the
LUN field must be the printed LUN, and `-iscsi-<iqn>` must end `-<portal>-iscsi-<target>`. The
leading `*` takes the rest, so a target that ends in `-iscsi-<iqn>` is matched too.
-/

set_option autoImplicit false

namespace BlockCsi.Node

open BlockCsi.Go

/-! ## Separators in suffixes -/

section Separators

variable (sep : Char)

/-- Two lists that each hold `sep` after a `sep`-free head share a prefix through that `sep` only
if the heads agree. -/
theorem sep_prefix_iff : ∀ (x z y w : List Char), sep ∉ x → sep ∉ z →
    (x ++ sep :: y <+: z ++ sep :: w ↔ x = z ∧ y <+: w)
  | [], [], _, _, _, _ => by simp
  | [], c :: _, _, _, _, zFree => by
    simp [List.ne_of_not_mem_cons zFree]
  | c :: _, [], _, _, xFree, _ => by
    simp [Ne.symm (List.ne_of_not_mem_cons xFree)]
  | c :: x, d :: z, y, w, xFree, zFree => by
    simp only [List.cons_append, List.cons_prefix_cons, List.cons.injEq, and_assoc,
      sep_prefix_iff x z y w (List.not_mem_of_not_mem_cons xFree) (List.not_mem_of_not_mem_cons zFree)]

/-- Two lists that each end in `sep` and a `sep`-free tail: one is a suffix of the other only if
the tails agree. -/
theorem sep_suffix_iff (x z y w : List Char) (yFree : sep ∉ y) (wFree : sep ∉ w) :
    x ++ sep :: y <:+ z ++ sep :: w ↔ y = w ∧ x <:+ z := by
  rw [← List.reverse_prefix]
  simpa [List.reverse_inj] using
    sep_prefix_iff sep y.reverse w.reverse x.reverse z.reverse (by simpa using yFree)
      (by simpa using wFree)

end Separators

theorem append_suffix_append_iff (x z tail : List Char) : x ++ tail <:+ z ++ tail ↔ x <:+ z := by
  rw [← List.reverse_prefix]
  simp

/-! ## The pattern and the paths it matches -/

theorem byPathPattern_data (arrayIqn : String) (lunId : Int) :
    (byPathPattern arrayIqn lunId).data =
      "/dev/disk/by-path/".data ++ "ip".data ++
        '*' :: ("-iscsi-" ++ arrayIqn ++ "-lun-" ++ itoa lunId).data := by
  simp [byPathPattern, String.intercalate, String.intercalate.go]

theorem splitOn_byPath (name : List Char) :
    ("/dev/disk/by-path/".data ++ name).splitOn '/' =
      [[], "dev".data, "disk".data, "by-path".data] ++ name.splitOn '/' :=
  rfl

theorem splitOn_sep_free (name : List Char) (noSep : '/' ∉ name) : name.splitOn '/' = [name] :=
  List.splitOnP_eq_single _ _ fun _ member same => noSep (beq_iff_eq.mp same ▸ member)

theorem intercalate_byPath (name : List Char) :
    ['/'].intercalate ([[], "dev".data, "disk".data, "by-path".data] ++ [name]) =
      "/dev/disk/by-path/".data ++ name := by
  simp [List.intercalate]

/-- The literal end of the pattern: no metacharacter and no separator in it, for an IQN without
them and a LUN of at least 0. -/
theorem byPathSuffix_literal (arrayIqn : String) (lunId : Int) (nonneg : 0 ≤ lunId)
    (literal : Literal arrayIqn.data) :
    Literal ("-iscsi-" ++ arrayIqn ++ "-lun-" ++ itoa lunId).data := by
  obtain ⟨n, rfl⟩ := Int.eq_ofNat_of_zero_le nonneg
  simp only [String.data_append, literal_append]
  exact ⟨⟨⟨by decide, literal⟩, by decide⟩, literal_of_digits _ (itoa_natCast_digits n).2⟩

/-- For every IQN free of metacharacters and separators and every LUN of at least 0, the paths
`filepath.Glob` may list for `GetMpathDevice`'s pattern are those of
`/dev/disk/by-path/ip<middle>-iscsi-<iqn>-lun-<lun>`, with no separator in the middle. -/
theorem globMatches_byPathPattern (arrayIqn : String) (lunId : Int) (nonneg : 0 ≤ lunId)
    (literal : Literal arrayIqn.data) (path : String) :
    globMatches (byPathPattern arrayIqn lunId) path = true ↔
      ∃ middle, '/' ∉ middle ∧
        path.data = "/dev/disk/by-path/ip".data ++ middle ++
          ("-iscsi-" ++ arrayIqn ++ "-lun-" ++ itoa lunId).data := by
  have suffixLiteral := byPathSuffix_literal arrayIqn lunId nonneg literal
  set suffix := ("-iscsi-" ++ arrayIqn ++ "-lun-" ++ itoa lunId).data
  have lastElement : ("ip".data ++ '*' :: suffix).splitOn '/' = ["ip".data ++ '*' :: suffix] :=
    splitOn_sep_free _ (by simp [suffixLiteral.sep_not_mem, show '/' ∉ "ip".data by decide])
  have starMatch := filepathMatch_star_iff "ip".data suffix
  rw [globMatches, byPathPattern_data, List.append_assoc, splitOn_byPath, lastElement,
    elementsMatch_literals_iff _ (by decide)]
  constructor
  · rintro ⟨name, split, matched⟩
    obtain ⟨middle, sepFree, rfl⟩ := (starMatch _ (by decide) suffixLiteral).mp matched
    refine ⟨middle, sepFree, ?_⟩
    have rebuilt : ['/'].intercalate (path.data.splitOn '/') = path.data := List.intercalate_splitOn path.data '/'
    rw [← rebuilt, split, intercalate_byPath]
    rfl
  · rintro ⟨middle, sepFree, pathData⟩
    refine ⟨"ip".data ++ middle ++ suffix, ?_,
      (starMatch _ (by decide) suffixLiteral).mpr ⟨middle, sepFree, rfl⟩⟩
    rw [pathData, show "/dev/disk/by-path/ip".data = "/dev/disk/by-path/".data ++ "ip".data from rfl,
      List.append_assoc, List.append_assoc, ← List.append_assoc "ip".data, splitOn_byPath,
      splitOn_sep_free _ (by simp [sepFree, suffixLiteral.sep_not_mem, show '/' ∉ "ip".data by decide])]

/-- The matches of the pattern among the paths under `/dev/disk/by-path/ip`: those whose rest ends
in the pattern's literal end, when the rest has no separator. -/
theorem globMatches_byPath_iff_suffix (arrayIqn : String) (lunId : Int) (nonneg : 0 ≤ lunId)
    (literal : Literal arrayIqn.data) (path : String) (rest : List Char)
    (under : path.data = "/dev/disk/by-path/ip".data ++ rest) :
    (globMatches (byPathPattern arrayIqn lunId) path = true →
      ("-iscsi-" ++ arrayIqn ++ "-lun-" ++ itoa lunId).data <:+ rest) ∧
    ('/' ∉ rest → ("-iscsi-" ++ arrayIqn ++ "-lun-" ++ itoa lunId).data <:+ rest →
      globMatches (byPathPattern arrayIqn lunId) path = true) := by
  rw [globMatches_byPathPattern arrayIqn lunId nonneg literal, under]
  simp only [List.append_assoc, List.append_cancel_left_eq]
  constructor
  · rintro ⟨middle, -, rfl⟩
    exact List.suffix_append middle _
  · rintro noSep ⟨middle, rfl⟩
    exact ⟨middle, fun member => noSep (List.mem_append_left _ member), rfl⟩

/-- The literal end of the pattern is a suffix of a name ending in `-` and a tail free of `-` only
if the tail is the printed LUN. -/
theorem byPathSuffix_peel (arrayIqn : String) (n : Nat) (head tail : List Char)
    (tailFree : '-' ∉ tail) :
    ("-iscsi-" ++ arrayIqn ++ "-lun-" ++ itoa (n : Int)).data <:+ head ++ '-' :: tail ↔
      (itoa (n : Int)).data = tail ∧ ("-iscsi-" ++ arrayIqn).data ++ "-lun".data <:+ head := by
  have pattern : ("-iscsi-" ++ arrayIqn ++ "-lun-" ++ itoa (n : Int)).data =
      (("-iscsi-" ++ arrayIqn).data ++ "-lun".data) ++ '-' :: (itoa (n : Int)).data := by
    simp
  rw [pattern, sep_suffix_iff '-' _ _ _ _ (not_mem_of_digits (itoa_natCast_digits n).2 '-' rfl) tailFree]

/-- A disk link matches the pattern exactly when its LUN field is the printed LUN and `-iscsi-q`
ends `-<portal>-iscsi-<target>`. -/
theorem globMatches_byPathPattern_disk (arrayIqn portal target lun : String) (n : Nat)
    (literal : Literal arrayIqn.data) (portalPlain : '/' ∉ portal.data)
    (targetPlain : '/' ∉ target.data) (decimal : ∀ c ∈ lun.data, c.isDigit = true) :
    globMatches (byPathPattern arrayIqn n)
        ("/dev/disk/by-path/ip-" ++ portal ++ "-iscsi-" ++ target ++ "-lun-" ++ lun) = true ↔
      lun = itoa n ∧ ("-iscsi-" ++ arrayIqn).data <:+ ("-" ++ portal ++ "-iscsi-" ++ target).data := by
  have linkData : ("/dev/disk/by-path/ip-" ++ portal ++ "-iscsi-" ++ target ++ "-lun-" ++ lun).data =
      "/dev/disk/by-path/ip".data ++
        (("-" ++ portal ++ "-iscsi-" ++ target).data ++ "-lun".data ++ '-' :: lun.data) := by
    simp
  obtain ⟨toSuffix, ofSuffix⟩ :=
    globMatches_byPath_iff_suffix arrayIqn n (Int.natCast_nonneg n) literal _ _ linkData
  have peel := (byPathSuffix_peel arrayIqn n (("-" ++ portal ++ "-iscsi-" ++ target).data ++ "-lun".data)
    _ (not_mem_of_digits decimal '-' rfl)).trans (and_congr_right' (append_suffix_append_iff _ _ _))
  constructor
  · intro matched
    obtain ⟨printedLun, suffix⟩ := peel.mp (toSuffix matched)
    exact ⟨String.ext printedLun.symm, suffix⟩
  · rintro ⟨rfl, suffix⟩
    have printed := (itoa_natCast_digits n).2
    exact ofSuffix (by simp [portalPlain, targetPlain, not_mem_of_digits printed '/' rfl])
      (peel.mpr ⟨rfl, suffix⟩)

/-- No partition link `...-lun-<n>-part<k>` matches the pattern: its name would have to end in
the printed LUN, which has no `p`. -/
theorem globMatches_byPathPattern_partition (arrayIqn link part : String) (n : Nat)
    (literal : Literal arrayIqn.data) (digits : ∀ c ∈ part.data, c.isDigit = true) :
    globMatches (byPathPattern arrayIqn n) ("/dev/disk/by-path/ip-" ++ link ++ "-part" ++ part) =
      false := by
  have linkData : ("/dev/disk/by-path/ip-" ++ link ++ "-part" ++ part).data =
      "/dev/disk/by-path/ip".data ++ (("-" ++ link).data ++ '-' :: ("part" ++ part).data) := by
    simp
  obtain ⟨toSuffix, -⟩ :=
    globMatches_byPath_iff_suffix arrayIqn n (Int.natCast_nonneg n) literal _ _ linkData
  refine Bool.eq_false_iff.mpr fun matched => ?_
  have printedPart := ((byPathSuffix_peel arrayIqn n _ _
    (by simp [not_mem_of_digits digits '-' rfl])).mp (toSuffix matched)).1
  exact not_mem_of_digits (itoa_natCast_digits n).2 'p' rfl (by simp [printedPart])

/-- For every IQN `q` free of metacharacters and separators, every LUN `l` of at least 0 and every
link `ip-<portal>-iscsi-<target>-lun-<n>` of `/dev/disk/by-path` with a decimal `n`, the pattern of
`GetMpathDevice` matches the link exactly when `n` is `l` printed and `-iscsi-q` ends
`-<portal>-iscsi-<target>`; it matches no partition link `...-lun-<n>-part<k>`. -/
theorem byPathPattern_matches_link (arrayIqn portal target lun : String) (lunId : Int)
    (nonneg : 0 ≤ lunId) (literal : Literal arrayIqn.data) (portalPlain : '/' ∉ portal.data)
    (targetPlain : '/' ∉ target.data) (decimal : ∀ c ∈ lun.data, c.isDigit = true) :
    (globMatches (byPathPattern arrayIqn lunId)
        ("/dev/disk/by-path/ip-" ++ portal ++ "-iscsi-" ++ target ++ "-lun-" ++ lun) = true ↔
      lun = itoa lunId ∧ ("-iscsi-" ++ arrayIqn).data <:+ ("-" ++ portal ++ "-iscsi-" ++ target).data) ∧
    ∀ part : String, (∀ c ∈ part.data, c.isDigit = true) →
      globMatches (byPathPattern arrayIqn lunId) ("/dev/disk/by-path/ip-" ++ portal ++ "-iscsi-" ++
        target ++ "-lun-" ++ lun ++ "-part" ++ part) = false := by
  obtain ⟨n, rfl⟩ := Int.eq_ofNat_of_zero_le nonneg
  refine ⟨globMatches_byPathPattern_disk arrayIqn portal target lun n literal portalPlain targetPlain
    decimal, fun part digits => ?_⟩
  have partition := globMatches_byPathPattern_partition arrayIqn
    (portal ++ "-iscsi-" ++ target ++ "-lun-" ++ lun) part n literal digits
  simpa only [String.append_assoc] using partition

theorem byPathPattern_matches_link_sample :
    (0 : Int) ≤ 1 ∧ Literal "iqn.x".data ∧ '/' ∉ "1.2.3.4:3260".data ∧ '/' ∉ "iqn.x".data ∧
      (∀ c ∈ "1".data, c.isDigit = true) ∧
      ((globMatches (byPathPattern "iqn.x" 1)
          ("/dev/disk/by-path/ip-" ++ "1.2.3.4:3260" ++ "-iscsi-" ++ "iqn.x" ++ "-lun-" ++ "1") = true ↔
        "1" = itoa 1 ∧ ("-iscsi-" ++ "iqn.x").data <:+ ("-" ++ "1.2.3.4:3260" ++ "-iscsi-" ++ "iqn.x").data) ∧
      ∀ part : String, (∀ c ∈ part.data, c.isDigit = true) →
        globMatches (byPathPattern "iqn.x" 1) ("/dev/disk/by-path/ip-" ++ "1.2.3.4:3260" ++ "-iscsi-" ++
          "iqn.x" ++ "-lun-" ++ "1" ++ "-part" ++ part) = false) :=
  ⟨by decide, by decide, by decide, by decide, by decide,
    byPathPattern_matches_link "iqn.x" "1.2.3.4:3260" "iqn.x" "1" 1 (by decide) (by decide) (by decide)
      (by decide) (by decide)⟩

/-- The link of a target `iqn.y:a-iscsi-iqn.x` on LUN 1 matches the pattern for the array
`iqn.x`: the leading `*` takes `-1.2.3.4:3260-iscsi-iqn.y:a`. -/
theorem byPathPattern_matches_other_target :
    globMatches (byPathPattern "iqn.x" 1)
        "/dev/disk/by-path/ip-1.2.3.4:3260-iscsi-iqn.y:a-iscsi-iqn.x-lun-1" = true ∧
      "iqn.y:a-iscsi-iqn.x" ≠ "iqn.x" := by
  decide

end BlockCsi.Node
