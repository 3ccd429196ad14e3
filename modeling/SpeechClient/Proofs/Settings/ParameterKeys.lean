import Mathlib.Data.List.Nodup
import SpeechClient.Settings.Parameters

/-!
# Keys of the parameters

Whichever parameters are sent, their keys come in one fixed order, and some are left out.  So no key
is named twice.
-/

namespace SpeechClient.Parameters

def keys : List String :=
  ["decoder.confidenceThreshold"] ++
  ["decoder.maxSentences"] ++
  ["endpointer.headMargin"] ++
  ["endpointer.tailMargin"] ++
  ["endpointer.waitEnd"] ++
  ["endpointer.maxSegmentDuration"] ++
  (["endpointer.levelMode"] ++ ["endpointer.autoLevelLen", "endpointer.levelThreshold"]) ++
  ["noInputTimeout.enabled", "noInputTimeout.value"] ++
  ["recognitionTimeout.enabled", "recognitionTimeout.value"] ++
  ["decoder.startInputTimers"] ++
  ["decoder.continuousMode"] ++
  ["Infer-age-enabled"] ++
  ["Infer-emotion-enabled"] ++
  ["Infer-gender-enabled"] ++
  ["Ver-Buffer-Utterance"] ++
  ["licenseManager.accountTag"] ++
  ["Channel-Identifier"] ++
  ["Media-Type"]

theorem numberHeader_keys (key : String) (value : UInt32) :
    ((numberHeader key value).map Prod.fst).Sublist [key] := by
  unfold numberHeader
  split <;> simp

theorem switchHeader_keys (key word : String) (on : Bool) :
    ((switchHeader key word on).map Prod.fst).Sublist [key] := by
  unfold switchHeader
  split <;> simp

theorem textHeader_keys (key value : String) :
    ((textHeader key value).map Prod.fst).Sublist [key] := by
  unfold textHeader
  split <;> simp

theorem levelHeaders_keys (p : Parameters) :
    (p.levelHeaders.map Prod.fst).Sublist (["endpointer.levelMode"] ++
      ["endpointer.autoLevelLen", "endpointer.levelThreshold"]) := by
  rw [levelHeaders, List.map_append]
  refine (numberHeader_keys _ _).append ?_
  -- Either mode leaves the other's key out.
  split
  · exact (numberHeader_keys _ _).trans (by simp)
  split
  · exact (numberHeader_keys _ _).trans (by simp)
  · simp

theorem timeoutHeaders_keys (name : String) (on : Bool) (value : UInt32) :
    ((timeoutHeaders name on value).map Prod.fst).Sublist
      [name ++ ".enabled", name ++ ".value"] := by
  unfold timeoutHeaders
  split
  · exact (numberHeader_keys _ _).cons_cons _
  · simp

theorem headers_keys (p : Parameters) : (p.headers.map Prod.fst).Sublist keys := by
  simp only [headers, List.map_append]
  have number := numberHeader_keys
  have switch := switchHeader_keys
  have text := textHeader_keys
  have level := p.levelHeaders_keys
  have timeout := timeoutHeaders_keys
  exact (number _ _).append (number _ _) |>.append (number _ _) |>.append (number _ _)
    |>.append (number _ _) |>.append (number _ _) |>.append level |>.append (timeout _ _ _)
    |>.append (timeout _ _ _) |>.append (switch _ _ _) |>.append (switch _ _ _)
    |>.append (switch _ _ _) |>.append (switch _ _ _) |>.append (switch _ _ _)
    |>.append (switch _ _ _) |>.append (text _ _) |>.append (text _ _) |>.append (text _ _)

theorem keys_nodup : keys.Nodup := by
  decide +kernel

/-- No parameter is named twice. -/
theorem headers_nodup (p : Parameters) : (p.headers.map Prod.fst).Nodup :=
  keys_nodup.sublist p.headers_keys

end SpeechClient.Parameters
