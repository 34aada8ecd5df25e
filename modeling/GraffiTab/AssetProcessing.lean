/-
This file asks what the processing of an uploaded asset leaves behind when one of its steps fails.

The upload waits in the temporary directory under its GUID. It is scaled into two further files,
unless it is small enough to be used itself, and the two images are saved in the datastore one after
the other. Only the second half deletes the files when it is done or has failed: an image that
cannot be generated leaves the upload there for good, and the other image with it. And when the
second image cannot be saved, nothing takes the first one back.
-/

import GraffiTab.GraffitiEdits
import GraffiTab.ImageScaling

namespace GraffiTab

/-! ### Outcomes -/

/-- A generated GUID: letters and digits. -/
structure Guid where
  text : String
  alphabet : text.toList.all Char.isAlphanum = true

/-- What happens when an image is scaled and written: the scaling throws, or the writing does
after it left something at the path, or it finds no writer and writes nothing, or the file is
there. -/
inductive ScalingOutcome where
  | notScaled
  | notWritten (left : Option (List UInt8))
  | noWriter
  | written (content : List UInt8)

/-- What the image library makes of the upload for one of the two images: it cannot read an image
from it, or it reads one of a size. -/
inductive ImageOutcome where
  | undecoded
  | decoded (source : ImageSize) (scaling : ScalingOutcome)

/-- The name of the file for a scaled image. -/
def scaledImageName (guid : Guid) (suffix : String) : String :=
  guid.text ++ if hasText (some suffix) then "_" ++ suffix else ""

/-- A call of `generateAndUploadImagesForAsset` with what it gets from outside: the GUIDs that it
generates for the scaled files, which are not in use in the temporary directory, and how the steps
go. -/
structure Processing (files : TemporaryFiles) where
  assetGuid : Guid
  standardGuid : Guid
  standard_fresh : files (scaledImageName standardGuid "") = none
  thumbnailGuid : Guid
  thumbnail_fresh : files (scaledImageName thumbnailGuid "thumb") = none
  standard : ImageOutcome
  thumbnail : ImageOutcome
  firstUpload : Except Throwable Unit
  secondUpload : Except Throwable Unit

/-! ### The code -/

def standardImgWidth : Int := 1024
def standardImgHeight : Int := 768

def thumbnailImgWidth : Int := 200
def thumbnailImgHeight : Int := 200

/-- An image in the temporary directory, by the name of its file. -/
structure ScaledImage where
  scaledImage : String
  size : ImageSize

/-- The sizes of the two images. -/
structure ImageSizes where
  width : Int
  height : Int
  thumbnailWidth : Int
  thumbnailHeight : Int
  deriving DecidableEq

/-- The temporary directory after the call, what was saved in the datastore, and the answer. -/
structure Processed where
  temporaryFiles : TemporaryFiles
  uploads : List (String × List UInt8)
  answer : Except Throwable ImageSizes

/-- The directory without a file. -/
def TemporaryFiles.delete (files : TemporaryFiles) (name : String) : TemporaryFiles :=
  Function.update files name none

/-- `ImageUtilsService.scaleImage`. The caller does not distinguish its exceptions. -/
def scaleImage (originalImageTempFile : String) (outcome : ImageOutcome)
    (requestedWidth requestedHeight : Int) (scaledImageTempFileName : String)
    (files : TemporaryFiles) : TemporaryFiles × Option ScaledImage :=
  match outcome with
  | .undecoded => (files, none)
  | .decoded source scaling =>
      match scaledSize source (some requestedWidth) (some requestedHeight) with
      | .error _ => (files, none)
      | .ok size =>
          if source.width > requestedWidth ∨ source.height > requestedHeight then
            match scaling with
            | .notScaled => (files, none)
            | .notWritten left => (Function.update files scaledImageTempFileName left, none)
            | .noWriter => (files, some ⟨scaledImageTempFileName, size⟩)
            | .written content =>
                (Function.update files scaledImageTempFileName (some content),
                  some ⟨scaledImageTempFileName, size⟩)
          else (files, some ⟨originalImageTempFile, size⟩)

/-- `ImageUtilsService.generateScaledImage`, which opens the upload first. -/
def generateScaledImage (originalImageTempFile : String) (outcome : ImageOutcome)
    (width height : Int) (guid : Guid) (suffix : String) (files : TemporaryFiles) :
    TemporaryFiles × Option ScaledImage :=
  match files originalImageTempFile with
  | none => (files, none)
  | some _ =>
      scaleImage originalImageTempFile outcome width height (scaledImageName guid suffix) files

section Processing

variable {files : TemporaryFiles} (processing : Processing files)

/-- The first half of `generateAndUploadImagesForAsset`. -/
def Processing.generateImages : TemporaryFiles × Option (ScaledImage × ScaledImage) :=
  match generateScaledImage processing.assetGuid.text processing.standard standardImgWidth
    standardImgHeight processing.standardGuid "" files with
  | (files, none) => (files, none)
  | (files, some standardImage) =>
      match generateScaledImage processing.assetGuid.text processing.thumbnail thumbnailImgWidth
        thumbnailImgHeight processing.thumbnailGuid "thumb" files with
      | (files, none) => (files, none)
      | (files, some thumbnailImage) => (files, some (standardImage, thumbnailImage))

/-- `AmazonS3DatastoreService.generateKey`. -/
def generateKey (assetGuid : String) : String := "assets/" ++ assetGuid

def errorGeneratingImages : Throwable := restApiException .generalError "Error generating images"

/-- The second half, with what it has saved in the datastore. -/
def Processing.uploadImages (standardImage thumbnailImage : ScaledImage)
    (temporaryFiles : TemporaryFiles) :
    List (String × List UInt8) × Except Throwable ImageSizes :=
  match temporaryFiles standardImage.scaledImage with
  | none => ([], .error errorGeneratingImages)
  | some standardContent =>
      match processing.firstUpload with
      | .error thrown => ([], .error thrown)
      | .ok () =>
          let first := (generateKey processing.assetGuid.text, standardContent)
          match temporaryFiles thumbnailImage.scaledImage with
          | none => ([first], .error errorGeneratingImages)
          | some thumbnailContent =>
              match processing.secondUpload with
              | .error thrown => ([first], .error thrown)
              | .ok () =>
                  ([first, (generateKey (processing.assetGuid.text ++ assetThumbnailSuffix),
                      thumbnailContent)],
                    .ok
                      { width := standardImage.size.width
                        height := standardImage.size.height
                        thumbnailWidth := thumbnailImage.size.width
                        thumbnailHeight := thumbnailImage.size.height })

/-- `ImageUtilsService.generateAndUploadImagesForAsset`. -/
def Processing.generateAndUploadImagesForAsset : Processed :=
  match processing.generateImages with
  | (temporaryFiles, none) =>
      { temporaryFiles, uploads := [], answer := .error errorGeneratingImages }
  | (temporaryFiles, some (standardImage, thumbnailImage)) =>
      let uploaded := processing.uploadImages standardImage thumbnailImage temporaryFiles
      { temporaryFiles :=
          ((temporaryFiles.delete processing.assetGuid.text).delete
            standardImage.scaledImage).delete thumbnailImage.scaledImage
        uploads := uploaded.1
        answer := uploaded.2 }

end Processing

/-! ### What should be left -/

/-- The image has to be scaled. -/
def ImageSize.Exceeds (source : ImageSize) (width height : Int) : Prop :=
  source.width > width ∨ source.height > height

instance (source : ImageSize) (width height : Int) : Decidable (source.Exceeds width height) :=
  inferInstanceAs (Decidable (_ ∨ _))

/-- The scaled image is there, or nothing that could be noticed before it is opened has failed. -/
def ScalingOutcome.Ends : ScalingOutcome → Prop
  | .notScaled | .notWritten _ => False
  | .noWriter | .written _ => True

/-- The file of the scaled image. -/
def ScalingOutcome.content : ScalingOutcome → Option (List UInt8)
  | .written content => some content
  | _ => none

/-- An image is generated for the requested size. -/
def ImageOutcome.Generates (width height : Int) : ImageOutcome → Prop
  | .undecoded => False
  | .decoded source scaling =>
      (∃ size, scaledSize source (some width) (some height) = .ok size) ∧
        (source.Exceeds width height → scaling.Ends)

/-- The image for the requested size: the scaled one, or the upload itself. -/
def ImageOutcome.content (width height : Int) (upload : List UInt8) :
    ImageOutcome → Option (List UInt8)
  | .undecoded => none
  | .decoded source scaling =>
      if source.Exceeds width height then scaling.content else some upload

section Spec

variable {files : TemporaryFiles} (processing : Processing files) (upload : List UInt8)

def Processing.standardContent : Option (List UInt8) :=
  processing.standard.content standardImgWidth standardImgHeight upload

def Processing.thumbnailContent : Option (List UInt8) :=
  processing.thumbnail.content thumbnailImgWidth thumbnailImgHeight upload

/-- The two images are saved under their keys. -/
def Processing.SavesBoth : Prop :=
  ∃ upload standard thumbnail, files processing.assetGuid.text = some upload ∧
    processing.standardContent upload = some standard ∧
    processing.thumbnailContent upload = some thumbnail ∧
    processing.generateAndUploadImagesForAsset.uploads =
      [(generateKey processing.assetGuid.text, standard),
        (generateKey (processing.assetGuid.text ++ assetThumbnailSuffix), thumbnail)]

/-- Neither the upload nor a file that the call has written is left, and the datastore has got both
images when the call returns, and none when it throws. -/
structure Processing.EndsCleanly : Prop where
  directory : ∀ name, name = processing.assetGuid.text ∨
    processing.generateAndUploadImagesForAsset.temporaryFiles name ≠ files name →
      processing.generateAndUploadImagesForAsset.temporaryFiles name = none
  uploads : match processing.generateAndUploadImagesForAsset.answer with
    | .ok _ => processing.SavesBoth
    | .error _ => processing.generateAndUploadImagesForAsset.uploads = []

/-- Both images are generated. -/
def Processing.GeneratesImages : Prop :=
  processing.standard.Generates standardImgWidth standardImgHeight ∧
    processing.thumbnail.Generates thumbnailImgWidth thumbnailImgHeight

/-- The first image can be saved and the second one cannot. -/
def Processing.SavesOnlyOne : Prop :=
  ((processing.standardContent upload).isSome ∧ processing.firstUpload = .ok ()) ∧
    ¬ ((processing.thumbnailContent upload).isSome ∧ processing.secondUpload = .ok ())

end Spec

/-! ### One image -/

section ScaleImage

variable {outcome : ImageOutcome} {width height : Int}

/-- An image that is not generated leaves at most something at its path. -/
theorem scaleImage_of_not_generates (original name : String) (files : TemporaryFiles)
    (fails : ¬ outcome.Generates width height) :
    ∃ left, scaleImage original outcome width height name files =
      (Function.update files name left, none) := by
  have unchanged : Function.update files name (files name) = files :=
    Function.update_eq_self name files
  unfold scaleImage
  cases outcome with
  | undecoded => exact ⟨files name, by rw [unchanged]⟩
  | decoded source scaling =>
      cases computed : scaledSize source (some width) (some height) with
      | error thrown => exact ⟨files name, by simp only [unchanged, computed]⟩
      | ok size =>
          have exceeds : source.Exceeds width height ∧ ¬ scaling.Ends := by
            rw [ImageOutcome.Generates, not_and, Classical.not_imp] at fails
            exact fails ⟨size, computed⟩
          simp only [computed]
          rw [if_pos (show source.width > width ∨ source.height > height from exceeds.1)]
          cases scaling with
          | notScaled => exact ⟨files name, by rw [unchanged]⟩
          | notWritten left => exact ⟨left, rfl⟩
          | noWriter => exact absurd trivial exceeds.2
          | written content => exact absurd trivial exceeds.2

/-- The result of scaling an image that is generated: what was written at its path, and the file
that is the image. -/
theorem scaleImage_of_generates {files : TemporaryFiles} {original name : String}
    {upload : List UInt8} (generates : outcome.Generates width height)
    (present : files original = some upload) (fresh : files name = none) :
    ∃ image left, scaleImage original outcome width height name files =
        (Function.update files name left, some image) ∧
      Function.update files name left image.scaledImage =
        outcome.content width height upload ∧
      (image.scaledImage = name ∨ image.scaledImage = original ∧ left = none) := by
  have unchanged : Function.update files name none = files := by
    rw [← fresh, Function.update_eq_self]
  unfold scaleImage
  cases outcome with
  | undecoded => exact generates.elim
  | decoded source scaling =>
      obtain ⟨⟨size, computed⟩, ends⟩ := generates
      simp only [computed, ImageOutcome.content]
      by_cases exceeds : source.Exceeds width height
      · rw [if_pos (show source.width > width ∨ source.height > height from exceeds),
          if_pos exceeds]
        cases scaling with
        | notScaled => exact (ends exceeds).elim
        | notWritten left => exact (ends exceeds).elim
        | noWriter =>
            refine ⟨⟨name, size⟩, none, by rw [unchanged], ?_, .inl rfl⟩
            exact Function.update_self name none files
        | written content =>
            exact ⟨⟨name, size⟩, some content, rfl, Function.update_self name _ files, .inl rfl⟩
      · rw [if_neg (show ¬ (source.width > width ∨ source.height > height) from exceeds),
          if_neg exceeds]
        exact ⟨⟨original, size⟩, none, by rw [unchanged], by rw [unchanged, present],
          .inr ⟨rfl, rfl⟩⟩

/-- Only the image itself has been written. -/
theorem update_of_ne_image {files : TemporaryFiles} {original name other : String}
    {image : ScaledImage} {left : Option (List UInt8)} (fresh : files name = none)
    (file : image.scaledImage = name ∨ image.scaledImage = original ∧ left = none)
    (different : other ≠ image.scaledImage) :
    Function.update files name left other = files other := by
  rcases file with own | ⟨-, rfl⟩
  · exact Function.update_of_ne (show other ≠ name from own ▸ different) left files
  · rw [← fresh, Function.update_eq_self]

end ScaleImage

/-! ### Both images -/

/-- The two scaled files have different names. -/
theorem scaledImageName_ne (standardGuid thumbnailGuid : Guid) :
    scaledImageName thumbnailGuid "thumb" ≠ scaledImageName standardGuid "" := by
  intro same
  have underscore : '_' ∈ (scaledImageName thumbnailGuid "thumb").toList := by
    rw [scaledImageName, String.toList_append]
    exact List.mem_append_right _ (by decide)
  rw [same, scaledImageName, String.toList_append] at underscore
  rcases List.mem_append.mp underscore with inGuid | inSuffix
  · exact absurd (List.all_eq_true.mp standardGuid.alphabet '_' inGuid) (by decide)
  · exact absurd inSuffix (by decide)

section GenerateImages

variable {files : TemporaryFiles} {processing : Processing files} {upload : List UInt8}

/-- Without the upload nothing is generated. -/
theorem Processing.generateImages_of_absent (absent : files processing.assetGuid.text = none) :
    processing.generateImages = (files, none) := by
  rw [generateImages, generateScaledImage, absent]

/-- The upload is not at the path of a scaled file. -/
theorem Processing.assetGuid_ne (present : files processing.assetGuid.text = some upload) :
    processing.assetGuid.text ≠ scaledImageName processing.standardGuid "" ∧
      processing.assetGuid.text ≠ scaledImageName processing.thumbnailGuid "thumb" := by
  constructor
  · intro same
    rw [same, processing.standard_fresh] at present
    cases present
  · intro same
    rw [same, processing.thumbnail_fresh] at present
    cases present

/-- When an image is not generated, the upload stays where it is. -/
theorem Processing.generateImages_of_not_generates
    (present : files processing.assetGuid.text = some upload)
    (fails : ¬ processing.GeneratesImages) :
    ∃ temporaryFiles, processing.generateImages = (temporaryFiles, none) ∧
      temporaryFiles processing.assetGuid.text = some upload := by
  obtain ⟨standardName, thumbnailName⟩ := processing.assetGuid_ne present
  by_cases standard : processing.standard.Generates standardImgWidth standardImgHeight
  · obtain ⟨image, left, scaled, -, -⟩ :=
      scaleImage_of_generates standard present processing.standard_fresh
    have stays : Function.update files (scaledImageName processing.standardGuid "") left
        processing.assetGuid.text = some upload := by
      rw [Function.update_of_ne standardName, present]
    obtain ⟨thumbnailLeft, notScaled⟩ := scaleImage_of_not_generates processing.assetGuid.text
      (scaledImageName processing.thumbnailGuid "thumb")
      (Function.update files (scaledImageName processing.standardGuid "") left)
      fun thumbnail => fails ⟨standard, thumbnail⟩
    refine ⟨_, ?_, (Function.update_of_ne thumbnailName thumbnailLeft _).trans stays⟩
    simp only [generateImages, generateScaledImage, present, scaled, stays, notScaled]
  · obtain ⟨left, notScaled⟩ := scaleImage_of_not_generates processing.assetGuid.text
      (scaledImageName processing.standardGuid "") files standard
    refine ⟨_, ?_, (Function.update_of_ne standardName left files).trans present⟩
    simp only [generateImages, generateScaledImage, present, notScaled]

/-- The files after both images are generated: the two images, and nothing else that was not
there. -/
theorem Processing.generateImages_of_generates
    (present : files processing.assetGuid.text = some upload)
    (generates : processing.GeneratesImages) :
    ∃ temporaryFiles standardImage thumbnailImage,
      processing.generateImages = (temporaryFiles, some (standardImage, thumbnailImage)) ∧
      temporaryFiles standardImage.scaledImage = processing.standardContent upload ∧
      temporaryFiles thumbnailImage.scaledImage = processing.thumbnailContent upload ∧
      ∀ name, name ≠ standardImage.scaledImage → name ≠ thumbnailImage.scaledImage →
        temporaryFiles name = files name := by
  obtain ⟨standardName, thumbnailName⟩ := processing.assetGuid_ne present
  have different := scaledImageName_ne processing.standardGuid processing.thumbnailGuid
  obtain ⟨standardImage, standardLeft, scaled, standardContent, standardFile⟩ :=
    scaleImage_of_generates generates.1 present processing.standard_fresh
  have stays : Function.update files (scaledImageName processing.standardGuid "") standardLeft
      processing.assetGuid.text = some upload := by
    rw [Function.update_of_ne standardName, present]
  have stillFresh : Function.update files (scaledImageName processing.standardGuid "")
      standardLeft (scaledImageName processing.thumbnailGuid "thumb") = none := by
    rw [Function.update_of_ne different, processing.thumbnail_fresh]
  obtain ⟨thumbnailImage, thumbnailLeft, thumbnailScaled, thumbnailContent, thumbnailFile⟩ :=
    scaleImage_of_generates generates.2 stays stillFresh
  have standardElsewhere :
      standardImage.scaledImage ≠ scaledImageName processing.thumbnailGuid "thumb" := by
    rcases standardFile with own | ⟨isOriginal, -⟩
    · exact own.trans_ne different.symm
    · exact isOriginal.trans_ne thumbnailName
  refine ⟨_, standardImage, thumbnailImage, ?_, ?_, thumbnailContent, ?_⟩
  · simp only [generateImages, generateScaledImage, present, scaled, stays, thumbnailScaled]
  · rw [Function.update_of_ne standardElsewhere, standardContent, Processing.standardContent]
  · intro name notStandard notThumbnail
    rw [update_of_ne_image stillFresh thumbnailFile notThumbnail,
      update_of_ne_image processing.standard_fresh standardFile notStandard]

/-! ### The uploads -/

/-- Exactly one upload is made, or the answer fits to what is saved. -/
theorem Processing.uploadImages_cases {standardImage thumbnailImage : ScaledImage}
    {temporaryFiles : TemporaryFiles}
    (standard : temporaryFiles standardImage.scaledImage = processing.standardContent upload)
    (thumbnail :
      temporaryFiles thumbnailImage.scaledImage = processing.thumbnailContent upload) :
    (processing.SavesOnlyOne upload ∧ ∃ first thrown,
      processing.uploadImages standardImage thumbnailImage temporaryFiles =
        ([first], .error thrown)) ∨
    (¬ processing.SavesOnlyOne upload ∧
      ((∃ thrown, processing.uploadImages standardImage thumbnailImage temporaryFiles =
        ([], .error thrown)) ∨
      ∃ standard thumbnail sizes, processing.standardContent upload = some standard ∧
        processing.thumbnailContent upload = some thumbnail ∧
        processing.uploadImages standardImage thumbnailImage temporaryFiles =
          ([(generateKey processing.assetGuid.text, standard),
            (generateKey (processing.assetGuid.text ++ assetThumbnailSuffix), thumbnail)],
            .ok sizes))) := by
  rw [SavesOnlyOne, uploadImages, standard, thumbnail]
  cases processing.standardContent upload with
  | none => exact .inr ⟨fun only => (nomatch only.1.1), .inl ⟨_, rfl⟩⟩
  | some standardContent =>
      cases processing.firstUpload with
      | error thrown => exact .inr ⟨fun only => (nomatch only.1.2), .inl ⟨_, rfl⟩⟩
      | ok done =>
          cases processing.thumbnailContent upload with
          | none => exact .inl ⟨⟨⟨rfl, rfl⟩, fun both => (nomatch both.1)⟩, _, _, rfl⟩
          | some thumbnailContent =>
              cases processing.secondUpload with
              | error thrown => exact .inl ⟨⟨⟨rfl, rfl⟩, fun both => (nomatch both.2)⟩, _, _, rfl⟩
              | ok done =>
                  exact .inr ⟨fun only => only.2 ⟨rfl, rfl⟩, .inr ⟨_, _, _, rfl, rfl, rfl⟩⟩

/-! ### What is left -/

/-- After the last deletion, only the three files are gone. -/
theorem delete_delete_delete {temporaryFiles : TemporaryFiles} {first second third name : String}
    (same : name ≠ second → name ≠ third → temporaryFiles name = files name)
    (named : name = first ∨
      ((temporaryFiles.delete first).delete second).delete third name ≠ files name) :
    ((temporaryFiles.delete first).delete second).delete third name = none := by
  simp only [TemporaryFiles.delete] at named ⊢
  by_cases isThird : name = third
  · rw [isThird, Function.update_self]
  by_cases isSecond : name = second
  · rw [Function.update_of_ne isThird, isSecond, Function.update_self]
  by_cases isFirst : name = first
  · rw [Function.update_of_ne isThird, Function.update_of_ne isSecond, isFirst,
      Function.update_self]
  rw [Function.update_of_ne isThird, Function.update_of_ne isSecond,
    Function.update_of_ne isFirst] at named
  exact absurd (same isSecond isThird) (named.resolve_left isFirst)

/-- When both images are generated, the uploads decide. -/
theorem Processing.endsCleanly_iff_of_generates
    (present : files processing.assetGuid.text = some upload)
    (generates : processing.GeneratesImages) :
    processing.EndsCleanly ↔ ¬ processing.SavesOnlyOne upload := by
  obtain ⟨temporaryFiles, standardImage, thumbnailImage, answer, standard, thumbnail, others⟩ :=
    generateImages_of_generates present generates
  have directory (name : String) (named : name = processing.assetGuid.text ∨
      processing.generateAndUploadImagesForAsset.temporaryFiles name ≠ files name) :
      processing.generateAndUploadImagesForAsset.temporaryFiles name = none := by
    simp only [generateAndUploadImagesForAsset, answer] at named ⊢
    exact delete_delete_delete (others name) named
  rcases uploadImages_cases standard thumbnail with
    ⟨only, first, thrown, uploaded⟩ | ⟨notOnly, ⟨thrown, uploaded⟩ | saved⟩
  · refine iff_of_false (fun cleanly => ?_) (not_not_intro only)
    have uploads := cleanly.uploads
    simp only [generateAndUploadImagesForAsset, answer, uploaded] at uploads
    cases uploads
  · refine iff_of_true ⟨directory, ?_⟩ notOnly
    simp only [generateAndUploadImagesForAsset, answer, uploaded]
  · obtain ⟨standardContent, thumbnailContent, sizes, standardSaved, thumbnailSaved, uploaded⟩ :=
      saved
    refine iff_of_true ⟨directory, ?_⟩ notOnly
    simp only [SavesBoth, generateAndUploadImagesForAsset, answer, uploaded]
    exact ⟨upload, standardContent, thumbnailContent, present, standardSaved, thumbnailSaved, rfl⟩

/-- The keys that are saved are those of the two images of the asset. -/
theorem Processing.SavesBoth.keys (saved : processing.SavesBoth) :
    processing.generateAndUploadImagesForAsset.uploads.map Prod.fst =
      (imageKeys processing.assetGuid.text).map generateKey := by
  obtain ⟨upload, standard, thumbnail, -, -, -, uploads⟩ := saved
  rw [uploads]
  rfl

/-- The processing ends cleanly exactly if there is no upload, or both images are generated and not
only the first one of them can be saved. -/
theorem endsCleanly_iff (processing : Processing files) :
    processing.EndsCleanly ↔ ∀ upload, files processing.assetGuid.text = some upload →
      processing.GeneratesImages ∧ ¬ processing.SavesOnlyOne upload := by
  cases present : files processing.assetGuid.text with
  | none =>
      have answer := Processing.generateImages_of_absent present
      refine iff_of_true ⟨fun name named => ?_, ?_⟩ nofun
      · simp only [Processing.generateAndUploadImagesForAsset, answer] at named ⊢
        rcases named with rfl | changed
        · exact present
        · exact absurd rfl changed
      · simp only [Processing.generateAndUploadImagesForAsset, answer]
  | some upload =>
      simp only [Option.some.injEq, forall_eq']
      by_cases generates : processing.GeneratesImages
      · rw [Processing.endsCleanly_iff_of_generates present generates, and_iff_right generates]
      · obtain ⟨temporaryFiles, answer, stays⟩ :=
          Processing.generateImages_of_not_generates present generates
        refine iff_of_false (fun cleanly => ?_) fun both => generates both.1
        have gone := cleanly.directory _ (.inl rfl)
        simp only [Processing.generateAndUploadImagesForAsset, answer] at gone
        rw [stays] at gone
        cases gone

end GenerateImages

/-! ### An upload that is no image -/

/-- The temporary directory with an upload of one byte. -/
def uploadedByte : TemporaryFiles := Function.update (fun _ => none) "upload" (some [0])

/-- Its processing, in which no image can be read from it. -/
def processingOfByte : Processing uploadedByte where
  assetGuid := ⟨"upload", by decide⟩
  standardGuid := ⟨"standard", by decide⟩
  standard_fresh := by decide
  thumbnailGuid := ⟨"small", by decide⟩
  thumbnail_fresh := by decide
  standard := .undecoded
  thumbnail := .undecoded
  firstUpload := .ok ()
  secondUpload := .ok ()

/-- The upload stays in the temporary directory. -/
theorem not_endsCleanly : ¬ processingOfByte.EndsCleanly := by
  intro cleanly
  have gone := cleanly.directory "upload" (.inl rfl)
  have stays : processingOfByte.generateAndUploadImagesForAsset.temporaryFiles "upload" =
      some [0] := by decide
  rw [stays] at gone
  cases gone

end GraffiTab
