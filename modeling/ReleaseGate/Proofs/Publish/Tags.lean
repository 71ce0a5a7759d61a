import ReleaseGate.Publish.FileTags

/-!
# Where the interpreter tag of a file is read

The name of a wheel has five or six components between hyphens, for the build tag may be missing. So the interpreter tag is counted from
the end, where only the interfaces and the platform follow it. A name with fewer components has no component to read, and none is read:
`interpreterTag_placed` says, for every file name, which component of which is read, if any.
-/

namespace ReleaseGate.FileTags

open Text

/-! ## Components -/

/-- The component that is read is the third from the end, which is there whenever one is read. -/
theorem interpreterComponent?_eq (components : List (List Char)) :
    interpreterComponent? components =
      if h : 5 ≤ components.length then some components[components.length - 3] else none := by
  unfold interpreterComponent?
  split
  next enough =>
    have inside : 2 < components.length := by omega
    have place : components.length - 1 - 2 = components.length - 3 := by omega
    rw [List.getElem?_reverse inside, place, List.getElem?_eq_getElem (by omega)]
  next => rfl

/-- The third component from the end is the one before the last two. -/
theorem interpreterComponent?_append {front : List (List Char)} (enough : 2 ≤ front.length) (python abi platform : List Char) :
    interpreterComponent? (front ++ [python, abi, platform]) = some python := by
  have length : (front ++ [python, abi, platform]).length = front.length + 3 := by simp
  rw [interpreterComponent?, if_pos (by omega), List.reverse_append]
  rfl

/-! ## File names -/

/-- Texts that can be the components of a name between hyphens. -/
structure AreComponents (components : List (List Char)) : Prop where
  inhabited : components ≠ []
  plain : ∀ c ∈ components, '-' ∉ c

/-- The file name of a wheel, put together from its components. -/
def wheelName (components : List (List Char)) : String := String.ofList (joinWith ['-'] components ++ wheelEnding)

theorem interpreterTag_of_not_isSuffix {fileName : String} (other : ¬wheelEnding <:+ fileName.toList) :
    interpreterTag fileName = "source" := by
  rw [interpreterTag, (beforeSuffix?_eq_none_iff wheelEnding fileName.toList).mpr other]

/-- The tag of a wheel is looked for among the components of its name. -/
theorem interpreterTag_wheelName {components : List (List Char)} (h : AreComponents components) :
    interpreterTag (wheelName components) = ((interpreterComponent? components).map String.ofList).getD "any" := by
  have cut : beforeSuffix? wheelEnding (wheelName components).toList = some (joinWith ['-'] components) := by
    rw [beforeSuffix?_eq_some_iff, wheelName, String.toList_ofList]
  rw [interpreterTag, cut]
  dsimp only
  rw [fields_joinWith h.inhabited h.plain]

/-- What ends as the name of a wheel does is put together from components. -/
theorem exists_components {fileName : String} (wheel : wheelEnding <:+ fileName.toList) :
    ∃ components, AreComponents components ∧ fileName = wheelName components := by
  obtain ⟨stem, whole⟩ := wheel
  refine ⟨fields '-' stem, ⟨splitAtEach_ne_nil _ stem, ?_⟩, ?_⟩
  · intro c hc hyphen
    have plain := (mem_of_mem_splitAtEach hc hyphen).2
    cases plain
  · rw [wheelName, joinWith_fields, whole, String.ofList_toList]

/-- The interpreter tag of a wheel is the component in the place of that tag, with a build tag before it or without one, and whatever the
components hold beside hyphens. Every name that ends as that of a wheel is put together from components, of which the third from the end
is read when there are five at least, and none otherwise; and a file of another name is a source. -/
theorem interpreterTag_placed :
    (∀ (name version python abi platform : List Char) (build : Option (List Char)),
        (∀ c ∈ name :: version :: (build.toList ++ [python, abi, platform]), '-' ∉ c) →
          interpreterTag (wheelName (name :: version :: (build.toList ++ [python, abi, platform]))) = String.ofList python) ∧
      (∀ fileName, wheelEnding <:+ fileName.toList → ∃ components, AreComponents components ∧ fileName = wheelName components) ∧
      (∀ components, AreComponents components →
        interpreterTag (wheelName components) =
          if h : 5 ≤ components.length then String.ofList components[components.length - 3] else "any") ∧
      ∀ fileName, ¬wheelEnding <:+ fileName.toList → interpreterTag fileName = "source" := by
  refine ⟨?_, fun _ => exists_components, ?_, fun _ => interpreterTag_of_not_isSuffix⟩
  · intro name version python abi platform build plain
    have front : name :: version :: (build.toList ++ [python, abi, platform]) =
        (name :: version :: build.toList) ++ [python, abi, platform] := rfl
    rw [interpreterTag_wheelName ⟨List.cons_ne_nil _ _, plain⟩, front, interpreterComponent?_append (by simp)]
    rfl
  · intro components areComponents
    rw [interpreterTag_wheelName areComponents, interpreterComponent?_eq]
    split
    next => rfl
    next => rfl

/-- A wheel with a build tag, a name with too few components for a wheel, and an archive. -/
theorem interpreterTag_placed_built :
    interpreterTag "widget-1.0-2-cp312-abi3-linux.whl_x86.whl" = "cp312" ∧
      (∃ components, AreComponents components ∧ "widget-1.0--cp312.whl" = wheelName components) ∧
      interpreterTag "widget-1.0--cp312.whl" = "any" ∧ interpreterTag "widget-1.0.tar.gz" = "source" := by
  obtain ⟨tagged, cut, read, source⟩ := interpreterTag_placed
  refine ⟨?_, cut _ (by decide), ?_, source _ (by decide)⟩
  · exact tagged "widget".toList "1.0".toList "cp312".toList "abi3".toList "linux.whl_x86".toList (some "2".toList) (by decide)
  · exact read ["widget".toList, "1.0".toList, [], "cp312".toList] ⟨List.cons_ne_nil _ _, by decide⟩

end ReleaseGate.FileTags
