import TopicBindings.Binding.Resolver
import TopicBindings.Proofs.Text.Join

/-!
Packages below a base package have different names if they have different names below it.
-/

namespace TopicBindings.Binding

theorem joinPackage_pair {outer inner : String} (ho : outer ≠ "") (hi : inner ≠ "") :
    joinPackage [some outer, some inner] = outer ++ "." ++ inner := by
  simp [joinPackage, ho, hi]

theorem joinPackage_inner {inner : String} (hi : inner ≠ "") :
    joinPackage [some "", some inner] = inner := by
  simp [joinPackage, hi]

namespace Resolver

variable (r : Resolver)

theorem packageName_some {package : String} (h : package ≠ "") :
    r.packageName (some package) =
      if r.basePackage = "" then package else r.basePackage ++ "." ++ package := by
  by_cases hb : r.basePackage = ""
  · rw [if_pos hb, packageName, hb, joinPackage_inner h]
  · rw [if_neg hb, packageName, joinPackage_pair hb h]

theorem packageName_ne_empty {package : String} (h : package ≠ "") :
    r.packageName (some package) ≠ "" := by
  rw [packageName_some r h]
  by_cases hb : r.basePackage = ""
  · rwa [if_pos hb]
  · rw [if_neg hb]
    intro he
    have hlength := congrArg String.length he
    simp at hlength

theorem packageName_inj {package other : String} (h : package ≠ "") (h' : other ≠ "")
    (heq : r.packageName (some package) = r.packageName (some other)) : package = other := by
  rw [packageName_some r h, packageName_some r h'] at heq
  by_cases hb : r.basePackage = ""
  · rwa [if_pos hb, if_pos hb] at heq
  · rw [if_neg hb, if_neg hb] at heq
    have hlist := congrArg String.toList heq
    apply String.toList_injective
    simpa using hlist

theorem packageName_none : r.packageName none = r.basePackage := by
  by_cases hb : r.basePackage = "" <;> simp [packageName, joinPackage, hb]

theorem packageName_ne_root {package : String} (h : package ≠ "") :
    r.packageName (some package) ≠ r.packageName none := by
  rw [packageName_some r h, packageName_none]
  by_cases hb : r.basePackage = ""
  · rwa [if_pos hb, hb]
  · rw [if_neg hb]
    intro heq
    simpa using congrArg String.toList heq

theorem joinPackage_packageName {package inner : String} (h : package ≠ "") (hi : inner ≠ "") :
    joinPackage [some (r.packageName (some package)), some inner] =
      r.packageName (some (package ++ "." ++ inner)) := by
  have hne : package ++ "." ++ inner ≠ "" := by
    intro he
    have hlength := congrArg String.length he
    simp at hlength
  rw [joinPackage_pair (r.packageName_ne_empty h) hi, packageName_some r h, packageName_some r hne]
  by_cases hb : r.basePackage = ""
  · rw [if_pos hb, if_pos hb]
  · rw [if_neg hb, if_neg hb]
    simp only [String.append_assoc]

end Resolver

end TopicBindings.Binding
