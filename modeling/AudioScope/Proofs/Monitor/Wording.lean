import AudioScope.Device.Fault
import AudioScope.Monitor

namespace AudioScope

/-!
# What the monitor says, word by word

Every fault of a device is told in words of its own, with what the bus says about
it behind them (`Device.Fault.Told`).  A report is printed in one of three forms,
and `Monitor.Options.Prints` writes out each of them around the numbers of the
report.
-/

namespace Device

/-- What the bus says about a transfer that has failed. -/
inductive TransferFault.Told : TransferFault → String → Prop where
  | cancelled : Told .cancelled "transfer was cancelled"
  | stall : Told .stall "endpoint STALL condition"
  | disconnected : Told .disconnected "device disconnected"
  | violation : Told .violation "hardware fault or protocol violation"
  | unknown : Told .unknown "unknown error"

theorem TransferFault.told_message (fault : TransferFault) : fault.Told fault.message := by
  cases fault with
  | cancelled =>
      exact .cancelled
  | stall =>
      exact .stall
  | disconnected =>
      exact .disconnected
  | violation =>
      exact .violation
  | unknown =>
      exact .unknown

namespace Fault

/-- The texts in which a fault is told: what happened, and the cause if there is one. -/
inductive Told : Fault → List String → Prop where
  | unavailable :
      Told .unavailable
        ["No audio debug device connected (is the firmware built with CFG_AUDIO_DEBUG=1?)"]
  | disconnected :
      Told .disconnected ["Audio debug device disconnected"]
  | unsupportedPlatform
      (platform : String) :
      Told (.unsupportedPlatform platform)
        ["Reading debug reports is only supported on Linux, not on " ++ platform]
  | noHidInterface :
      Told .noHidInterface
        ["The device doesn't expose a HID interface with an interrupt IN endpoint"]
  | usb
      (activity cause : String) :
      Told (.usb activity cause) ["USB error while " ++ activity, cause]
  | transfer
      (activity : String)
      {cause : TransferFault}
      {text : String}
      (told : cause.Told text) :
      Told (.transfer activity cause) ["USB transfer error while " ++ activity, text]
  | unconfigured :
      Told (.configuration 0)
        ["Can't read the active USB configuration", "device is not configured"]
  | undescribed
      {value : UInt8}
      (configured : value ≠ 0) :
      Told (.configuration value)
        ["Can't read the active USB configuration",
          "no descriptor found for active configuration " ++ toString value.toNat]
  | truncated
      (expected actual : Nat) :
      Told (.truncated ⟨expected, actual⟩)
        ["Malformed debug report: expected at least " ++ toString expected ++
          " bytes, got " ++ toString actual]

/-- A fault is told by what is said about it and about its cause. -/
theorem told_chain (fault : Fault) : fault.Told fault.chain := by
  cases fault with
  | unavailable =>
      exact .unavailable
  | disconnected =>
      exact .disconnected
  | unsupportedPlatform platform =>
      exact .unsupportedPlatform platform
  | noHidInterface =>
      exact .noHidInterface
  | usb activity cause =>
      exact .usb activity cause
  | transfer activity cause =>
      exact .transfer activity cause.told_message
  | configuration value =>
      -- The value zero says that the device has not been configured at all.
      by_cases unconfigured : value = 0
      · subst unconfigured
        exact .unconfigured
      · have cause :
            cause? (.configuration value) =
              some ("no descriptor found for active configuration " ++ toString value.toNat) :=
          if_neg unconfigured
        rw [chain, cause]
        exact .undescribed unconfigured
  | truncated buffer =>
      exact .truncated buffer.expected buffer.actual

end Fault

end Device

namespace Monitor

/-- The numbers of the three channels in brackets. -/
def bracketed
    (separator : String)
    (master first second : Int) :
    String :=
  "[" ++ separator.intercalate [toString master, toString first, toString second] ++ "]"

/-- A report as JSON: all fields under their keys, without blanks. -/
def asJson (report : Report) : String :=
  let mute := report.mute
  let volume := report.volume
  "\x7b" ++
    ",".intercalate
      ["\"sample_rate\":" ++ toString report.sampleRate.toNat,
        "\"alt_settings\":" ++ toString report.altSetting.toNat,
        "\"mute\":" ++ bracketed "," mute.master.toInt mute.first.toInt mute.second.toInt,
        "\"volume\":" ++ bracketed "," volume.master.toInt volume.first.toInt volume.second.toInt,
        "\"fifo_size\":" ++ toString report.fifoSize.toNat,
        "\"fifo_count\":" ++ toString report.fifoCount.toNat,
        "\"fifo_count_avg\":" ++ toString report.fifoAverage.toNat] ++
    "\x7d"

/-- A report in brief: the size of the FIFO and how full it is. -/
def inBrief (report : Report) : String :=
  "FIFO size:" ++ toString report.fifoSize.toNat ++
    " | FIFO count:" ++ toString report.fifoCount.toNat

/-- A report in full: five lines, the last one about the FIFO. -/
def inFull (report : Report) : String :=
  let mute := report.mute
  let volume := report.volume
  "\n".intercalate
      ["Sample rate: " ++ toString report.sampleRate.toNat ++ " Hz",
        "Alt setting: " ++ toString report.altSetting.toNat,
        "Mute: " ++ bracketed ", " mute.master.toInt mute.first.toInt mute.second.toInt,
        "Volume: " ++ bracketed ", " volume.master.toInt volume.first.toInt volume.second.toInt,
        inBrief report ++ " | FIFO avg:" ++ toString report.fifoAverage.toNat] ++
    "\n"

/-- The text that is printed of a report, by what is asked of the monitor. -/
inductive Options.Prints (options : Options) (report : Report) : String → Prop where
  | json
      (json : options.json = true) :
      Prints options report (asJson report)
  | full
      (notJson : options.json = false)
      (full : options.full = true) :
      Prints options report (inFull report)
  | brief
      (notJson : options.json = false)
      (notFull : options.full = false) :
      Prints options report (inBrief report)

/-- What is printed of a report is in the form that is asked for. -/
theorem Options.prints_batchText
    (options : Options)
    (report : Report) :
    options.Prints report (options.batchText report) := by
  rcases options with ⟨wait, full, json⟩
  cases json with
  | true =>
      exact .json rfl
  | false =>
      cases full with
      | true =>
          exact .full rfl rfl
      | false =>
          exact .brief rfl rfl

end Monitor

end AudioScope
