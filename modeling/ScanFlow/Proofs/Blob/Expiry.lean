import Mathlib
import ScanFlow.Proofs.Blob.Containment
import ScanFlow.Proofs.Merge.Facades
import ScanFlow.Proofs.Settings.Working

/-!
When the URLs of blobs expire.

The moment of expiry is computed with signed 64-bit numbers, while the settings allow every
unsigned one as the lifetime. The URL expires when it should exactly as long as the moment fits
into a signed number. A later moment wraps around, and the URL has expired before it is used.
-/

namespace ScanFlow

/-! ### Moments in texts -/

theorem Text.equals_not_mem_toString (n : Int) : '=' ∉ (toString n).toList := by
  have hdigits : ∀ m : Nat, '=' ∉ m.repr.toList := by
    intro m hmem
    rw [Nat.toList_repr] at hmem
    exact absurd (Nat.isDigit_of_mem_toDigits (by decide) (by decide) hmem) (by decide)
  rw [Int.toString_eq_repr, Int.repr_eq_if]
  split
  · exact hdigits _
  · rw [String.toList_append, List.mem_append]
    rintro (hsign | hmem)
    · exact absurd hsign (by decide)
    · exact hdigits _ hmem

namespace BlobDirectory

/-- The moment at which a URL says that it expires, in seconds since 1970: the number that ends
it, after the name of the parameter. -/
def expires? (url : String) : Option Int :=
  match Text.cutLast? '=' url.toList with
  | some (front, moment) =>
    if "?expires".toList <:+ front then (String.ofList moment).toInt? else none
  | none => none

theorem expires?_append (front : String) (moment : Int) :
    expires? (front ++ "?expires=" ++ toString moment) = some moment := by
  have hcut : (front ++ "?expires=" ++ toString moment).toList =
      (front.toList ++ "?expires".toList) ++ '=' :: (toString moment).toList := by
    simp only [String.toList_append, List.append_assoc]
    rfl
  unfold expires?
  rw [hcut, Text.cutLast?_append _ (Text.equals_not_mem_toString moment)]
  dsimp only
  rw [if_pos (List.suffix_append _ _), String.ofList_toList, Int.toString_eq_repr,
    Int.toInt?_repr]

/-- The URL of a key says the moment that has been computed. -/
theorem expires?_urlOf (blobs : BlobDirectory) (now : Timestamp) (key : String) (lifetime : Nat) :
    expires? (blobs.urlOf now key lifetime) = some (expiry now lifetime) :=
  expires?_append _ _

/-! ### Moments in signed numbers -/

def FitsSigned (n : Int) : Prop := -2 ^ 63 ≤ n ∧ n < 2 ^ 63

theorem bmod_of_fits {n : Int} (h : FitsSigned n) : n.bmod (2 ^ 64) = n := by
  obtain ⟨hlow, hhigh⟩ := h
  exact Int.bmod_eq_of_le (by norm_num; omega) (by norm_num; omega)

theorem bmod_above {n : Int} (hlow : 2 ^ 63 ≤ n) (hhigh : n < 2 ^ 64 + 2 ^ 63) :
    n.bmod (2 ^ 64) = n - 2 ^ 64 := by
  have hfits : FitsSigned (n - 2 ^ 64) := ⟨by omega, by omega⟩
  rw [← bmod_of_fits hfits]
  simp [Int.bmod]

/-- Wrapping the lifetime first makes no difference to the sum. -/
theorem expiry_eq (now : Timestamp) (lifetime : Nat) :
    expiry now lifetime = (now.seconds + lifetime).bmod (2 ^ 64) := Int.add_bmod_bmod

/-! ### The URLs of an installation -/

/-- A URL expires as it was asked to: exactly the lifetime after it is made, so that it has not
expired yet, and the signed sum that gives the moment does not overflow. -/
structure ExpiresAsAsked (url : String) (now : Timestamp) (lifetime : Nat) : Prop where
  exact : expires? url = some (now.seconds + lifetime)
  alive : ∀ moment, expires? url = some moment → now.seconds ≤ moment
  fits : FitsSigned (now.seconds + (lifetime : Int).bmod (2 ^ 64))

section Lifetime

variable {blobs : BlobDirectory} {key : String} {now : Timestamp} {lifetime : Nat}

/-- The URL of a key that exists is issued. -/
theorem url_of_exists (now : Timestamp) (lifetime : Nat) (hexists : blobs.exists? key = .ok true) :
    blobs.url now key lifetime = .ok (blobs.urlOf now key lifetime) := by
  rcases blobs.answers_cases key now lifetime with
    ⟨-, hanswer, hurl⟩ | ⟨fault, -, hanswer, -⟩
  · have hthere := Except.ok.inj (hanswer.symm.trans hexists)
    rw [hurl, if_pos hthere]
  · cases hanswer.symm.trans hexists

theorem urlOf_expires_iff (hnow : FitsSigned now.seconds) (hword : lifetime ≤ Digits.maxWord64) :
    ExpiresAsAsked (blobs.urlOf now key lifetime) now lifetime ↔
      lifetime < 2 ^ 63 ∧ now.seconds + lifetime < 2 ^ 63 := by
  unfold Digits.maxWord64 at hword
  obtain ⟨hlow, hhigh⟩ := hnow
  constructor
  · rintro ⟨hexact, -, hfits⟩
    rw [expires?_urlOf, expiry_eq, Option.some.injEq] at hexact
    have hsum : now.seconds + lifetime < 2 ^ 63 := by
      by_contra hlate
      rw [bmod_above (by omega) (by omega)] at hexact
      omega
    refine ⟨?_, hsum⟩
    by_contra hlong
    rw [bmod_above (by omega) (by omega)] at hfits
    exact absurd hfits.1 (by omega)
  · rintro ⟨hlifetime, hsum⟩
    have hfits : FitsSigned (now.seconds + lifetime) := ⟨by omega, hsum⟩
    have hexact : expires? (blobs.urlOf now key lifetime) = some (now.seconds + lifetime) := by
      rw [expires?_urlOf, expiry_eq, bmod_of_fits hfits]
    refine ⟨hexact, fun moment hmoment => ?_, ?_⟩
    · rw [hexact, Option.some.injEq] at hmoment
      omega
    · rw [bmod_of_fits ⟨by omega, by omega⟩]
      exact hfits

/-- Of a moment that does not fit, so much is lost that it lies in the past. -/
theorem expiry_lt (hnow : FitsSigned now.seconds) (hword : lifetime ≤ Digits.maxWord64)
    (hlate : 2 ^ 63 ≤ now.seconds + lifetime) : expiry now lifetime < now.seconds := by
  unfold Digits.maxWord64 at hword
  obtain ⟨hlow, hhigh⟩ := hnow
  rw [expiry_eq, bmod_above hlate (by omega)]
  omega

end Lifetime

/-- **URLs expire when asked, as long as the moment fits into a signed number.** For settings that
pass their rules, a key that exists and any present, the URL of the key expires exactly the
lifetime of the settings later, is not expired, and comes from a sum that does not overflow, if
and only if the lifetime and the moment are below `2 ^ 63`. Where the moment is not, the URL has
expired before it is made. -/
theorem url_expires_iff {settings : Settings} (hvalid : settings.validate = .ok ())
    (hword : settings.blobUrlExpirySecs ≤ Digits.maxWord64) {blobs : BlobDirectory} {key : String}
    (hexists : blobs.exists? key = .ok true) {now : Timestamp} (hnow : FitsSigned now.seconds) :
    ∃ o url, Orchestrator.ofSettings settings = .ok o ∧
      blobs.url now key o.urlLifetime = .ok url ∧
      (ExpiresAsAsked url now settings.blobUrlExpirySecs ↔
        settings.blobUrlExpirySecs < 2 ^ 63 ∧
          now.seconds + settings.blobUrlExpirySecs < 2 ^ 63) ∧
      (2 ^ 63 ≤ now.seconds + settings.blobUrlExpirySecs →
        ∃ moment, expires? url = some moment ∧ moment < now.seconds) := by
  refine ⟨settings.orchestrator, _, Settings.ofSettings_orchestrator hvalid,
    url_of_exists now _ hexists, urlOf_expires_iff hnow hword, fun hlate => ?_⟩
  exact ⟨_, expires?_urlOf blobs now key _, expiry_lt hnow hword hlate⟩

def artifactShelf : BlobDirectory where
  root := .directory [("blobs", .directory [("shop.war", .file)])]
  base := ["blobs"]
  baseUrl := "http://localhost:4000/blobs/"

theorem artifactShelf_pathOf : artifactShelf.pathOf "shop.war" = ["blobs", "shop.war"] := by
  decide +kernel

theorem artifactShelf_holds : artifactShelf.Holds "shop.war" ["blobs", "shop.war"] := by
  have htop : artifactShelf.root.Opens [] := ⟨_, rfl⟩
  have hopens : artifactShelf.root.Opens ["blobs"] := ⟨_, rfl⟩
  have hblobs : ¬ FileTree.Stays "blobs" ∧ "blobs" ≠ ".." := by
    unfold FileTree.Stays
    decide
  have hshop : ¬ FileTree.Stays "shop.war" ∧ "shop.war" ≠ ".." := by
    unfold FileTree.Stays
    decide
  have hbase : artifactShelf.Leads artifactShelf.base ["blobs"] :=
    ⟨by decide, 0, by decide, .enter htop hblobs hopens.stands (.arrived _)⟩
  refine ⟨by decide, by decide, by decide, ?_, ?_, ?_⟩
  · decide +kernel
  · rw [artifactShelf_pathOf]
    exact ⟨by decide, 0, by decide,
      .enter htop hblobs hopens.stands (.enter hopens hshop ⟨.file, rfl, nofun⟩ (.arrived _))⟩
  · exact ⟨["blobs"], _, ["shop.war"], .file, hbase, rfl, rfl, rfl, nofun⟩

theorem artifactShelf_exists : artifactShelf.exists? "shop.war" = .ok true :=
  exists?_iff_holds.mpr ⟨_, artifactShelf_holds⟩

def sampleDay : Timestamp := ⟨1700000000, 0⟩

theorem sampleDay_fits : FitsSigned sampleDay.seconds := by
  unfold FitsSigned
  decide

theorem standard_url_expires :
    ({} : Settings).validate = .ok () ∧ ({} : Settings).blobUrlExpirySecs ≤ Digits.maxWord64 ∧
      artifactShelf.exists? "shop.war" = .ok true ∧ FitsSigned sampleDay.seconds ∧
      ∃ o url, Orchestrator.ofSettings {} = .ok o ∧
        artifactShelf.url sampleDay "shop.war" o.urlLifetime = .ok url ∧
        ExpiresAsAsked url sampleDay 3600 := by
  have hvalid : ({} : Settings).validate = .ok () := by decide +kernel
  have hword : ({} : Settings).blobUrlExpirySecs ≤ Digits.maxWord64 := by decide
  obtain ⟨o, url, ho, hurl, hiff, -⟩ :=
    url_expires_iff hvalid hword artifactShelf_exists sampleDay_fits
  exact ⟨hvalid, hword, artifactShelf_exists, sampleDay_fits, o, url, ho, hurl,
    hiff.mpr ⟨by decide, by decide⟩⟩

def everlastingSettings : Settings := { blobUrlExpirySecs := Digits.maxWord64 }

/-- With the longest lifetime, the URL has expired one second before it is made. -/
theorem everlasting_url_expired :
    everlastingSettings.validate = .ok () ∧
      everlastingSettings.blobUrlExpirySecs ≤ Digits.maxWord64 ∧
      artifactShelf.exists? "shop.war" = .ok true ∧ FitsSigned sampleDay.seconds ∧
      ∃ o url, Orchestrator.ofSettings everlastingSettings = .ok o ∧
        artifactShelf.url sampleDay "shop.war" o.urlLifetime = .ok url ∧
        expires? url = some 1699999999 ∧
        ¬ ExpiresAsAsked url sampleDay everlastingSettings.blobUrlExpirySecs := by
  have hvalid : everlastingSettings.validate = .ok () := by decide +kernel
  have hword : everlastingSettings.blobUrlExpirySecs ≤ Digits.maxWord64 := Nat.le_refl _
  refine ⟨hvalid, hword, artifactShelf_exists, sampleDay_fits, _, _,
    Settings.ofSettings_orchestrator hvalid, url_of_exists _ _ artifactShelf_exists, ?_, ?_⟩
  · rw [expires?_urlOf]
    decide
  · intro hasked
    exact absurd ((urlOf_expires_iff sampleDay_fits hword).mp hasked) (by decide)

end BlobDirectory

end ScanFlow
