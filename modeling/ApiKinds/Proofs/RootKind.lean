/-
  The Kind that a location names.

  * `afterLast_localPart`: neither scheme nor host changes the file name.
  * `dropExtension?_eq_some_iff`, `findSome?_dropExtension?`: an extension is taken off in any
    spelling, and it is the only one that stands there.
  * `flatMap_capitalized_words`: the words of a piece, each with its capital, are its Kind name.
  * `FileOf`: the locations of a file with a given name.
  * `ofLocation_of_fileOf`: the Kind is that of the pieces of the name that are no versions.
-/
import ApiKinds.RootKind
import ApiKinds.Proofs.Spelling

namespace ApiKinds.RootKind

open Text

/-! ## The file name -/

section
variable {directory name : String}

/-- A scheme is followed by a host and a path, unless it ends the directory. -/
theorem slash_mem_of_scheme {base rest : String} (hname : '/' ∉ name.toList)
    (hne : directory ≠ base) (h : directory ++ "/" ++ name = base ++ "/" ++ rest) :
    '/' ∈ rest.toList := by
  by_contra hrest
  have hlast : name = rest := by
    have hleft : afterLast '/' (directory ++ "/" ++ name) = name :=
      afterLast_eq directory.toList (by simp) hname
    have hright : afterLast '/' (base ++ "/" ++ rest) = rest :=
      afterLast_eq base.toList (by simp) hrest
    rw [← hleft, h, hright]
  rw [hlast, String.append_left_inj, String.append_left_inj] at h
  exact hne h

/-- What is behind the host ends in the file name. -/
theorem afterLast_of_splitOnce {scheme rest host path : String}
    (h : splitOnce '/' rest = some (host, path)) :
    afterLast '/' (scheme ++ rest) = afterLast '/' path := by
  obtain ⟨-, hrest⟩ := splitOnce_eq_some_iff.1 h
  have hchars : scheme ++ rest = .ofList ((scheme.toList ++ host.toList) ++ '/' :: path.toList) := by
    rw [← String.toList_inj, String.toList_append, hrest, String.toList_ofList, List.append_assoc]
  rw [hchars, afterLast_append_cons, String.ofList_toList]

/-- Neither scheme nor host changes the file name. -/
theorem afterLast_localPart (hname : '/' ∉ name.toList) (hhttp : directory ≠ "http:/")
    (hhttps : directory ≠ "https:/") :
    afterLast '/' (localPart (directory ++ "/" ++ name)) = name := by
  have hfile : afterLast '/' (directory ++ "/" ++ name) = name :=
    afterLast_eq directory.toList (by simp) hname
  rw [localPart]
  split
  · exact hfile
  · next rest hscheme =>
    -- One of the two schemes is there, and it is not all of the directory.
    have hlocation : ∃ base, directory ≠ base ∧ directory ++ "/" ++ name = base ++ "/" ++ rest := by
      cases hsecure : dropPrefix? "https://" (directory ++ "/" ++ name) with
      | some found =>
        rw [hsecure] at hscheme
        obtain rfl : found = rest := Option.some.inj hscheme
        exact ⟨"https:/", hhttps, dropPrefix?_eq_some_iff.1 hsecure⟩
      | none =>
        rw [hsecure] at hscheme
        exact ⟨"http:/", hhttp, dropPrefix?_eq_some_iff.1 hscheme⟩
    obtain ⟨base, hne, hbase⟩ := hlocation
    split
    · next host path hsplit => rw [← afterLast_of_splitOnce hsplit, ← hbase, hfile]
    · next hsplit =>
      exact absurd (slash_mem_of_scheme hname hne hbase) (splitOnce_eq_none_iff.1 hsplit)

end

/-! ## The extension -/

section
variable {fileName extension stem spelled : String}

theorem length_eq_of_same (h : sameIgnoringAsciiCase spelled extension) :
    spelled.toList.length = extension.toList.length := by
  have hsmall := congrArg String.toList (sameIgnoringAsciiCase_iff.1 h)
  simpa using congrArg List.length hsmall

/-- An extension is taken off in any spelling. -/
theorem dropExtension?_eq_some_iff : dropExtension? fileName extension = some stem ↔
    ∃ spelled, sameIgnoringAsciiCase spelled extension ∧ fileName = stem ++ spelled := by
  rw [dropExtension?]
  constructor
  · intro h
    split at h
    · next hend =>
      obtain rfl := Option.some.inj h
      refine ⟨_, hend.2, ?_⟩
      rw [← String.ofList_append, List.take_append_drop, String.ofList_toList]
    · cases h
  · rintro ⟨spelled, hsame, rfl⟩
    have hlength := length_eq_of_same hsame
    have hstem : (stem ++ spelled).toList.length - extension.toList.length =
        stem.toList.length := by
      rw [String.toList_append, List.length_append]
      omega
    have hle : extension.toList.length ≤ (stem ++ spelled).toList.length := by
      rw [String.toList_append, List.length_append]
      omega
    rw [hstem, String.toList_append, List.drop_left, List.take_left, String.ofList_toList,
      String.ofList_toList, ← String.toList_append, if_pos ⟨hle, hsame⟩]

/-- No extension is the end of another one. -/
theorem eq_of_isSuffix : ∀ a ∈ extensions, ∀ b ∈ extensions, a.toList <:+ b.toList → a = b := by
  decide

/-- A file name ends in one extension only. -/
theorem extension_unique {a b stem' : String} (ha : a ∈ extensions) (hb : b ∈ extensions)
    (hstem : dropExtension? fileName a = some stem) (hstem' : dropExtension? fileName b = some stem') :
    a = b := by
  have hsmall : ∀ known ∈ extensions, asciiSmall known = known := by decide
  have hend {known stem : String} (hknown : known ∈ extensions)
      (hdrop : dropExtension? fileName known = some stem) :
      known.toList <:+ (asciiSmall fileName).toList := by
    obtain ⟨spelled, hsame, rfl⟩ := dropExtension?_eq_some_iff.1 hdrop
    rw [asciiSmall_append, sameIgnoringAsciiCase_iff.1 hsame, hsmall known hknown,
      String.toList_append]
    exact List.suffix_append _ _
  rcases List.suffix_or_suffix_of_suffix (hend ha hstem) (hend hb hstem') with h | h
  · exact eq_of_isSuffix a ha b hb h
  · exact (eq_of_isSuffix b hb a ha h).symm

theorem findSome?_dropExtension? (hmem : extension ∈ extensions)
    (hsame : sameIgnoringAsciiCase spelled extension) :
    extensions.findSome? (dropExtension? (stem ++ spelled)) = some stem := by
  have hdrop : dropExtension? (stem ++ spelled) extension = some stem :=
    dropExtension?_eq_some_iff.2 ⟨spelled, hsame, rfl⟩
  cases hfound : extensions.findSome? (dropExtension? (stem ++ spelled)) with
  | none =>
    rw [List.findSome?_eq_none_iff] at hfound
    rw [hfound extension hmem] at hdrop
    cases hdrop
  | some other =>
    -- The search could stop at another extension before it comes to this one.
    obtain ⟨found, hmem', hfound'⟩ := List.exists_of_findSome?_eq_some hfound
    obtain rfl := extension_unique hmem hmem' hdrop hfound'
    rw [← hfound', hdrop]

/-- An extension holds no slash, however it is spelled. -/
theorem slash_not_mem_of_same (hmem : extension ∈ extensions)
    (hsame : sameIgnoringAsciiCase spelled extension) : '/' ∉ spelled.toList := by
  have hfree : ∀ known ∈ extensions, '/' ∉ (asciiSmall known).toList := by decide
  intro hslash
  refine hfree extension hmem ?_
  rw [← sameIgnoringAsciiCase_iff.1 hsame, toList_asciiSmall]
  exact List.mem_map_of_mem hslash

end

/-! ## The words -/

theorem words_eq (piece : String) : words piece = (Word.ofText piece.toList).map String.ofList := by
  rw [words, splitBy, Word.ofText, List.filter_map]
  congr 1
  refine List.filter_congr fun word _ => ?_
  cases word with
  | nil => rfl
  | cons c rest => simp

theorem toList_capitalized (word : String) :
    (capitalized word).toList = capitalize word.toList := by
  rw [capitalized]
  cases word.toList with
  | nil => rfl
  | cons first rest => rw [capitalize, String.toList_ofList]

/-- The words of a piece, each with its capital, are the Kind name of the piece. -/
theorem flatMap_capitalized_words (piece : String) :
    ((words piece).flatMap fun word => (capitalized word).toList) =
      (Word.pascalCase piece).toList := by
  simp only [words_eq, List.flatMap_map, toList_capitalized, String.toList_ofList, Word.pascalCase]

/-- So are the words of some pieces. -/
theorem join_capitalized_words (named : List String) :
    join "" ((named.flatMap words).map capitalized) = join "" (named.map Word.pascalCase) := by
  rw [← String.toList_inj, toList_join_empty, toList_join_empty, List.flatMap_map, List.flatMap_map,
    List.flatMap_assoc]
  exact List.flatMap_congr fun piece _ => flatMap_capitalized_words piece

/-! ## The Kind -/

/-- The Kind name of the pieces that are no versions. -/
def kindOf (pieces : List String) : String :=
  join "" ((pieces.filter (!isVersionLike ·)).map Word.pascalCase)

/-- The locations of a file whose name is made of some pieces and an extension. -/
inductive FileOf (pieces : List String) : String → Prop
  | mk {directory extension spelled : String} : directory ≠ "http:/" → directory ≠ "https:/" →
      (∀ piece ∈ pieces, '/' ∉ piece.toList ∧ '.' ∉ piece.toList) →
      extension ∈ extensions → sameIgnoringAsciiCase spelled extension →
      FileOf pieces (directory ++ "/" ++ (join "." pieces ++ spelled))

/-- No piece at all is one empty piece. -/
theorem kindOf_splitOn_join {pieces : List String} (h : ∀ piece ∈ pieces, '.' ∉ piece.toList) :
    kindOf (splitOn '.' (join "." pieces)) = kindOf pieces := by
  cases pieces with
  | nil => decide
  | cons first rest => rw [splitOn_join rfl (List.cons_ne_nil _ _) h]

theorem ofLocation_eq {pieces : List String} {location : String} (h : FileOf pieces location) :
    ofLocation location = kindOf pieces := by
  obtain @⟨directory, extension, spelled, hhttp, hhttps, hpieces, hmem, hsame⟩ := h
  have hname : '/' ∉ (join "." pieces ++ spelled).toList := by
    intro hslash
    rw [String.toList_append, List.mem_append] at hslash
    rcases hslash with hjoin | hspelled
    · rcases mem_of_mem_join hjoin with hdot | ⟨piece, hpiece, hslash⟩
      · exact absurd hdot (by decide)
      · exact (hpieces piece hpiece).1 hslash
    · exact slash_not_mem_of_same hmem hsame hspelled
  rw [ofLocation, afterLast_localPart hname hhttp hhttps, findSome?_dropExtension? hmem hsame,
    Option.getD_some, join_capitalized_words]
  exact kindOf_splitOn_join fun piece hpiece => (hpieces piece hpiece).2

/-- **The Kind depends on the words of the file name only**: it is that of the pieces which are no
    versions, and it is the same for another directory, host or extension, and with other
    versions. -/
theorem ofLocation_of_fileOf {pieces : List String} {location : String} (h : FileOf pieces location) :
    ofLocation location = join "" ((pieces.filter (!isVersionLike ·)).map Word.pascalCase) ∧
      ∀ pieces' location', FileOf pieces' location' →
        pieces'.filter (!isVersionLike ·) = pieces.filter (!isVersionLike ·) →
        ofLocation location' = ofLocation location := by
  refine ⟨ofLocation_eq h, fun pieces' location' h' hwords => ?_⟩
  rw [ofLocation_eq h', ofLocation_eq h, kindOf, hwords, kindOf]

/-- One name on a host and in the root directory, with another extension and other versions. -/
theorem ofLocation_petStore :
    FileOf ["pet-store", "1", "0"] "https://example.com/specs/pet-store.1.0.YAML" ∧
      FileOf ["pet-store", "v2"] "/pet-store.v2.json" ∧
      ofLocation "https://example.com/specs/pet-store.1.0.YAML" = "PetStore" ∧
      ofLocation "/pet-store.v2.json" =
        ofLocation "https://example.com/specs/pet-store.1.0.YAML" := by
  have hhosted : FileOf ["pet-store", "1", "0"] "https://example.com/specs/pet-store.1.0.YAML" :=
    .mk (by decide : "https://example.com/specs" ≠ "http:/") (by decide) (by decide)
      (by decide : ".yaml" ∈ extensions) (by decide : sameIgnoringAsciiCase ".YAML" ".yaml")
  have hrooted : FileOf ["pet-store", "v2"] "/pet-store.v2.json" :=
    .mk (by decide : "" ≠ "http:/") (by decide) (by decide)
      (by decide : ".json" ∈ extensions) (by decide : sameIgnoringAsciiCase ".json" ".json")
  have hkind : join "" ((["pet-store", "1", "0"].filter (!isVersionLike ·)).map Word.pascalCase) =
      "PetStore" := by decide
  have hversions : ["pet-store", "v2"].filter (!isVersionLike ·) =
      ["pet-store", "1", "0"].filter (!isVersionLike ·) := by decide
  obtain ⟨hwords, hsame⟩ := ofLocation_of_fileOf hhosted
  exact ⟨hhosted, hrooted, hwords.trans hkind, hsame _ _ hrooted hversions⟩

end ApiKinds.RootKind
