import BtFramework.BtAddress
import BtFramework.Keyed

/-!
# Scanners

`scan_manager.c`, with `scan_record.c` and `scan_filter.c`. A report is offered to the scanners
that are scanning, in the order in which they started. A device whose report passed a filter is
remembered, for all scanners, and later reports of it pass without a look at the filter.
Scanners are named by the pointer they were allocated at.
-/

namespace BtFramework

/-! ## Records and filters -/

structure ScanResult where
  addr : BtAddress
  addrType : Nat
  advData : List UInt8
deriving DecidableEq

/-- A filter on 16-bit UUIDs, which may be inactive. -/
structure ScanFilter where
  duration : UInt32
  period : UInt32
  uuids : List UInt16
  active : Bool
  duplicated : Bool
deriving DecidableEq

def recordParseUuid16 : List UInt8 → UInt16
  | low :: high :: _ => low.toUInt16 + high.toUInt16 * 256
  | _ => 0

def scanRecordFields : Nat → UInt16 → List UInt8 → UInt16
  | 0, uuid, _ => uuid
  | fuel + 1, uuid, fieldLen :: type :: rest =>
    if fieldLen = 0 then uuid
    else if rest.length + 1 < fieldLen.toNat then uuid
    else
      let data := rest.take (fieldLen.toNat - 1)
      let uuid :=
        if (type = 0x02 ∨ type = 0x03 ∨ type = 0x16) ∧ 2 ≤ fieldLen.toNat - 1 then
          recordParseUuid16 data
        else uuid
      scanRecordFields fuel uuid (rest.drop (fieldLen.toNat - 1))
  | _, uuid, _ => uuid

def scanRecordParse (eirData : List UInt8) : UInt16 :=
  scanRecordFields eirData.length 0 eirData

def matchUuid (uuid : UInt16) (uuids : List UInt16) : Bool :=
  uuids.any fun u => u ≠ 0 && uuid = u

def scannerMatchFilter (recordUuid : UInt16) (filter : ScanFilter) : Bool :=
  recordUuid ≠ 0 && matchUuid recordUuid filter.uuids

/-! ## The state -/

structure Scanner where
  ptr : Nat
  remote : Option Nat
  callbacks : Nat
  scannerId : Nat
  filter : ScanFilter
deriving DecidableEq

structure ScannerDevice where
  addr : BtAddress
  addrType : Nat
  timestamp : UInt32

inductive ScanStatus where
  | success | startFail | scannerRegNomem | scannerExisted
deriving DecidableEq

inductive ScanNotice where
  | startStatus (scanner : Nat) (status : ScanStatus)
  | stopped (scanner : Nat)
  | result (scanner : Nat) (result : ScanResult)
deriving DecidableEq

/-- The slots, the scanners that scan, the devices remembered and what was told. -/
structure ScanManager where
  scannerList : List (Option Scanner)
  scanningList : List Scanner
  hashTable : List UInt32
  devices : List ScannerDevice
  scannerCnt : Nat
  isScanning : Bool
  nextPtr : Nat
  notices : List ScanNotice

structure ScanConfig where
  scannerMaxNum : Nat
  advReportSize : Nat

def btLeAdvReportDurationMs : UInt32 := 500

def btLeAdvReportPeriodMs : UInt32 := 5000

def ScanFilter.none : ScanFilter :=
  { duration := 0, period := 0, uuids := [0, 0], active := false, duplicated := false }

namespace ScanManager

def init (cfg : ScanConfig) : ScanManager :=
  { scannerList := List.replicate cfg.scannerMaxNum .none, scanningList := []
    hashTable := List.replicate cfg.advReportSize 0, devices := [], scannerCnt := 0
    isScanning := false, nextPtr := 0, notices := [] }

def notify (m : ScanManager) (notice : ScanNotice) : ScanManager :=
  { m with notices := m.notices ++ [notice] }

/-! ## Reports -/

def btHash4 (key : List UInt8) : UInt32 :=
  key.foldl (fun h byte => (h <<< 5) + h + byte.toUInt32) 0

def scannerHsearchFind (hashTable : List UInt32) (key : List UInt8) : Bool :=
  (hashTable.takeWhile (· ≠ 0)).contains (btHash4 key) || btHash4 key = 0 && hashTable.contains 0

def scannerHsearchAdd : List UInt32 → List UInt8 → List UInt32
  | [], _ => []
  | cell :: cells, key =>
    if cell = 0 then btHash4 key :: cells else cell :: scannerHsearchAdd cells key

def scannerMatchDuration (t1 duration period timestamp : UInt32) : Bool × UInt32 :=
  let t2 := t1 + duration
  let t3 := t1 + period
  if timestamp < t1 then (false, timestamp)
  else if t1 ≤ timestamp ∧ timestamp < t2 then (true, t1)
  else if t2 ≤ timestamp ∧ timestamp < t3 then (false, t1)
  else (true, timestamp)

structure Pass where
  devices : List ScannerDevice
  hashTable : List UInt32
  delivered : List Nat

def ofDevice (result : ScanResult) (device : ScannerDevice) : Bool :=
  device.addr = result.addr ∧ device.addrType = result.addrType

def scannerFindDevice (devices : List ScannerDevice) (result : ScanResult) : Option ScannerDevice :=
  devices.find? (ofDevice result)

def setTimestamp (devices : List ScannerDevice) (result : ScanResult) (timestamp : UInt32) :
    List ScannerDevice :=
  devices.map fun device => if ofDevice result device then { device with timestamp } else device

def offer (result : ScanResult) (timestampMs : UInt32) (pass : Pass) (scanner : Scanner) : Pass :=
  if !scanner.filter.active then { pass with delivered := pass.delivered ++ [scanner.ptr] }
  else
    let found := scannerFindDevice pass.devices result
    if found.isNone && !scannerMatchFilter (scanRecordParse result.advData) scanner.filter then pass
    else
      let device := found.getD
        { addr := result.addr, addrType := result.addrType, timestamp := timestampMs }
      let pass := if found.isNone then { pass with devices := pass.devices ++ [device] } else pass
      if scanner.filter.duplicated then
        let (inTime, timestamp) := scannerMatchDuration device.timestamp scanner.filter.duration
          scanner.filter.period timestampMs
        let pass := { pass with devices := setTimestamp pass.devices result timestamp }
        if !inTime then pass
        else if scannerHsearchFind pass.hashTable result.advData then pass
        else
          { pass with
            hashTable := scannerHsearchAdd pass.hashTable result.advData
            delivered := pass.delivered ++ [scanner.ptr] }
      else { pass with delivered := pass.delivered ++ [scanner.ptr] }

def offerAll (m : ScanManager) (result : ScanResult) (timestampMs : UInt32) : Pass :=
  m.scanningList.foldl (offer result timestampMs)
    { devices := m.devices, hashTable := m.hashTable, delivered := [] }

def notifyScannersScanResult (m : ScanManager) (busy : Bool) (result : ScanResult)
    (timestampMs : UInt32) : ScanManager :=
  if busy then m
  else
    let pass := m.offerAll result timestampMs
    { m with
      devices := pass.devices
      hashTable := pass.hashTable
      notices := m.notices ++ pass.delivered.map (.result · result) }

/-! ## Registration -/

def scannerCompare (src dest : Scanner) : Bool :=
  if dest.remote.isSome then src.remote = dest.remote else src.callbacks = dest.callbacks

def takeSlot (scanner : Scanner) :
    Nat → List (Option Scanner) → Option (Scanner × List (Option Scanner))
  | _, [] => .none
  | i, .none :: slots =>
    let scanner := { scanner with scannerId := i }
    .some (scanner, .some scanner :: slots)
  | i, .some other :: slots =>
    (takeSlot scanner (i + 1) slots).map fun (scanner, slots) => (scanner, .some other :: slots)

def registerScanner (cfg : ScanConfig) (m : ScanManager) (scanner : Scanner) :
    Except ScanStatus (Scanner × ScanManager) :=
  if m.scannerCnt = cfg.scannerMaxNum then .error .scannerRegNomem
  else if m.scannerList.any (·.any (scannerCompare · scanner)) then .error .scannerExisted
  else
    match takeSlot scanner 0 m.scannerList with
    | .none => .error .startFail
    | .some (scanner, scannerList) =>
      .ok (scanner, { m with scannerList, scannerCnt := (m.scannerCnt + 1) % 256 })

def startScan (cfg : ScanConfig) (m : ScanManager) (sal : Bool) (remote : Option Nat)
    (callbacks : Nat) (filter : ScanFilter) : ScanManager :=
  let ptr := m.nextPtr
  let m := { m with nextPtr := m.nextPtr + 1 }
  match registerScanner cfg m { ptr, remote, callbacks, scannerId := 0, filter } with
  | .error status => m.notify (.startStatus ptr status)
  | .ok (scanner, m) =>
    let first := !m.isScanning && m.scanningList.isEmpty
    if first && !sal then m.notify (.startStatus ptr .startFail)
    else
      { m with
        isScanning := m.isScanning || first
        scanningList := m.scanningList ++ [scanner] }.notify (.startStatus ptr .success)

def filterOf (filter : Option ScanFilter) : ScanFilter :=
  match filter with
  | .some filter =>
    if filter.active then
      { filter with
        duration := btLeAdvReportDurationMs
        period := btLeAdvReportPeriodMs
        duplicated := false }
    else .none
  | .none => .none

def stopScan (m : ScanManager) (ptr : Nat) : ScanManager :=
  if !m.scanningList.any (·.ptr = ptr) then m
  else
    let m := { m with scanningList := Keyed.remove (·.ptr) ptr m.scanningList }
    if m.isScanning && m.scanningList.isEmpty then
      { m with
        devices := []
        hashTable := m.hashTable.map fun _ => 0
        isScanning := false }
    else m

def unregisterScanner (m : ScanManager) (ptr : Nat) : ScanManager :=
  match m.scannerList.find? (·.any (·.ptr = ptr)) with
  | .some (.some scanner) =>
    let m := (m.stopScan ptr).notify (.stopped ptr)
    { m with
      scannerList := m.scannerList.set scanner.scannerId .none
      scannerCnt := (m.scannerCnt + 255) % 256 }
  | _ => m

def cleanupSlot (m : ScanManager) : Option Scanner → ScanManager
  | .some scanner => m.unregisterScanner scanner.ptr
  | .none => m

def cleanupScanner (m : ScanManager) : ScanManager :=
  { m.scannerList.foldl cleanupSlot m with scanningList := [], devices := [] }

/-- Requests, reports of the controller, and the shutdown. -/
inductive Input where
  | start (sal : Bool) (remote : Option Nat) (callbacks : Nat) (filter : Option ScanFilter)
  | stop (ptr : Nat)
  | report (busy : Bool) (result : ScanResult) (timestampMs : UInt32)
  | cleanup

def step (cfg : ScanConfig) (m : ScanManager) : Input → ScanManager
  | .start sal remote callbacks filter =>
    m.startScan cfg sal remote callbacks (filterOf filter)
  | .stop ptr => m.unregisterScanner ptr
  | .report busy result timestampMs => m.notifyScannersScanResult busy result timestampMs
  | .cleanup => m.cleanupScanner

end ScanManager

end BtFramework
