import PureCloak.Content.NoiseScript
import PureCloak.Content.ScriptStrings

/-!
# The injected script

The text of `GenerateInjectionScript`, with the scripts of `AntiDetectionEngine` that it is made of. The strings of a
workspace come into it as literals, and where one of these does not end at the quote of the emitter the text is
another script. `generateInjectionScript_closed` says for which strings they all do.

`HumanizeEngine`, of which the repository has no source, gives the script for a preset.
-/

namespace PureCloak.Content
open PureCloak.Base PureCloak.Profiles JsLiteral

/-! ## Protectors -/

/-- `GenerateCanvasProtector`. -/
def generateCanvasProtector (seed : Int32) : Script := [
  .text ("var _origGetImageData=CanvasRenderingContext2D.prototype.getImageData;" ++
      "CanvasRenderingContext2D.prototype.getImageData=function()\x7b" ++
      "var d=_origGetImageData.apply(this,arguments);" ++
      "for(var i=0;i<d.data.length;i+=4)\x7b" ++
      "d.data[i]=_pcNoise(d.data[i],"),
  .number seed,
  .text ("+i);" ++
      "d.data[i+1]=_pcNoise(d.data[i+1],"),
  .number seed,
  .text ("+i+1);" ++
      "d.data[i+2]=_pcNoise(d.data[i+2],"),
  .number seed,
  .text ("+i+2);" ++
      "\x7d" ++
      "return d;" ++
      "\x7d;" ++
      "var _origToDataURL=HTMLCanvasElement.prototype.toDataURL;" ++
      "HTMLCanvasElement.prototype.toDataURL=function()\x7b" ++
      "var ctx=this.getContext('2d');" ++
      "if(ctx)\x7b" ++
      "try\x7b" ++
      "var w=this.width,h=this.height;" ++
      "var img=_origGetImageData.call(ctx,0,0,Math.min(w,1),Math.min(h,1));" ++
      "if(img&&img.data&&img.data.length>=4)\x7b" ++
      "img.data[0]=_pcNoise(img.data[0],"),
  .number seed,
  .text (");" ++
      "ctx.putImageData(img,0,0);" ++
      "\x7d" ++
      "\x7dcatch(e)\x7b\x7d" ++
      "\x7d" ++
      "return _origToDataURL.apply(this,arguments);" ++
      "\x7d;")]

/-- `GenerateAudioProtector`. -/
def generateAudioProtector (seed : Int32) : Script := [
  .text ("var _origGetFloat=AnalyserNode.prototype.getFloatFrequencyData;" ++
      "AnalyserNode.prototype.getFloatFrequencyData=function(arr)\x7b" ++
      "_origGetFloat.call(this,arr);" ++
      "for(var i=0;i<arr.length;i++)\x7b" ++
      "var n=((_pcNoise(0,"),
  .number seed,
  .text ("+i)-128)/256)*0.5;" ++
      "arr[i]+=n;" ++
      "\x7d" ++
      "\x7d;" ++
      "var _origGetByte=AnalyserNode.prototype.getByteFrequencyData;" ++
      "AnalyserNode.prototype.getByteFrequencyData=function(arr)\x7b" ++
      "_origGetByte.call(this,arr);" ++
      "for(var i=0;i<arr.length;i++)\x7b" ++
      "arr[i]=_pcNoise(arr[i],"),
  .number seed,
  .text ("+i);" ++
      "\x7d" ++
      "\x7d;" ++
      "var _origGetChannel=AudioBuffer.prototype.getChannelData;" ++
      "AudioBuffer.prototype.getChannelData=function(ch)\x7b" ++
      "var d=_origGetChannel.call(this,ch);" ++
      "for(var i=0;i<d.length;i++)\x7b" ++
      "d[i]+=((_pcNoise(128,"),
  .number seed,
  .text ("+i)-128)/256)*0.0001;" ++
      "\x7d" ++
      "return d;" ++
      "\x7d;")]

/-- `GenerateFontProtector`. -/
def generateFontProtector (seed : Int32) : Script := [
  .text ("if('queryLocalFonts' in window)\x7b" ++
      "var _origQueryFonts=window.queryLocalFonts;" ++
      "window.queryLocalFonts=function()\x7b" ++
      "return _origQueryFonts.apply(this,arguments).then(function(fonts)\x7b" ++
      "var allowed=['Arial','Helvetica','Times New Roman','Courier New'," ++
      "'Georgia','Palatino','Garamond','Bookman','Comic Sans MS'," ++
      "'Trebuchet MS','Arial Black','Impact','Verdana','Tahoma'," ++
      "'Segoe UI','Calibri','Cambria','Consolas','DejaVu Sans'," ++
      "'DejaVu Serif','DejaVu Sans Mono','Liberation Sans','Liberation Serif'," ++
      "'Liberation Mono','Noto Sans','Noto Serif','Roboto','Open Sans'," ++
      "'Source Sans Pro','Ubuntu','Cantarell','Menlo','Monaco'];" ++
      "return fonts.filter(function(f)\x7b" ++
      "return allowed.some(function(a)\x7b" ++
      "return f.family.toLowerCase().indexOf(a.toLowerCase())>=0;" ++
      "\x7d);" ++
      "\x7d);" ++
      "\x7d);" ++
      "\x7d;" ++
      "\x7d" ++
      "var _origMeasureText=CanvasRenderingContext2D.prototype.measureText;" ++
      "CanvasRenderingContext2D.prototype.measureText=function(text)\x7b" ++
      "var m=_origMeasureText.call(this,text);" ++
      "var orig=\x7b" ++
      "width:m.width," ++
      "actualBoundingBoxLeft:m.actualBoundingBoxLeft||0," ++
      "actualBoundingBoxRight:m.actualBoundingBoxRight||0," ++
      "actualBoundingBoxAscent:m.actualBoundingBoxAscent||0," ++
      "actualBoundingBoxDescent:m.actualBoundingBoxDescent||0" ++
      "\x7d;" ++
      "m.width=orig.width+((_pcNoise(128,"),
  .number seed,
  .text (")-128)/256)*0.1;" ++
      "m.actualBoundingBoxLeft=orig.actualBoundingBoxLeft+((_pcNoise(128,"),
  .number seed,
  .text ("+1)-128)/256)*0.1;" ++
      "m.actualBoundingBoxRight=orig.actualBoundingBoxRight+((_pcNoise(128,"),
  .number seed,
  .text ("+2)-128)/256)*0.1;" ++
      "return m;" ++
      "\x7d;")]

/-- `GenerateWebRTCProtector`. -/
def generateWebRTCProtector : Script := [
  .text ("var _origRTC=window.RTCPeerConnection;" ++
      "if(_origRTC)\x7b" ++
      "var _RTCWrapper=function(config,constraints)\x7b" ++
      "if(config&&config.iceServers)\x7b" ++
      "config.iceServers=config.iceServers.map(function(s)\x7b" ++
      "return\x7burls:s.urls,username:s.username,credential:s.credential\x7d;" ++
      "\x7d);" ++
      "\x7d" ++
      "var pc=new _origRTC(config,constraints);" ++
      "var _origAddIceCandidate=pc.addIceCandidate;" ++
      "pc.addIceCandidate=function(candidate)\x7b" ++
      "if(candidate&&candidate.candidate)\x7b" ++
      "var c=candidate.candidate;" ++
      "if(c.indexOf('srflx')!==-1)\x7b" ++
      "return Promise.resolve();" ++
      "\x7d" ++
      "\x7d" ++
      "return _origAddIceCandidate.apply(this,arguments);" ++
      "\x7d;" ++
      "return pc;" ++
      "\x7d;" ++
      "_RTCWrapper.prototype=_origRTC.prototype;" ++
      "window.RTCPeerConnection=_RTCWrapper;" ++
      "if(typeof window.webkitRTCPeerConnection!=='undefined')\x7b" ++
      "window.webkitRTCPeerConnection=_RTCWrapper;" ++
      "\x7d" ++
      "\x7d" ++
      "if(typeof RTCPeerConnection!=='undefined')\x7b" ++
      "Object.defineProperty(navigator,'mediaDevices',\x7b" ++
      "get:function()\x7b" ++
      "var d=Object.getOwnPropertyDescriptor(Navigator.prototype,'mediaDevices')" ++
      "  ||Object.getOwnPropertyDescriptor(navigator,'mediaDevices');" ++
      "if(d&&d.get)\x7b" ++
      "var origDevices=d.get.call(navigator);" ++
      "var wrapper=Object.create(origDevices);" ++
      "wrapper.enumerateDevices=function()\x7b" ++
      "return origDevices.enumerateDevices().then(function(devices)\x7b" ++
      "return devices.map(function(d)\x7b" ++
      "return\x7bkind:d.kind,deviceId:'',groupId:'',label:d.kind==='videoinput'?'camera':'audio'\x7d;" ++
      "\x7d);" ++
      "\x7d);" ++
      "\x7d;" ++
      "return wrapper;" ++
      "\x7d" ++
      "return undefined;" ++
      "\x7d" ++
      "\x7d);" ++
      "\x7d")]

/-- `GenerateWebdriverRemover`. -/
def generateWebdriverRemover : Script := [
  .text ("try\x7b" ++
      "Object.defineProperty(navigator,'webdriver'," ++
      "\x7bget:function()\x7breturn undefined;\x7d,configurable:true\x7d);" ++
      "\x7dcatch(e)\x7b\x7d" ++
      "try\x7bdelete window.cdc_adoQpoasnfa76pfcZLmcfl_Array;" ++
      "delete window.cdc_adoQpoasnfa76pfcZLmcfl_Promise;" ++
      "delete window.cdc_adoQpoasnfa76pfcfl_Symbol;" ++
      "\x7dcatch(e)\x7b\x7d" ++
      "try\x7b" ++
      "Object.defineProperty(navigator,'plugins'," ++
      "\x7bget:function()\x7b" ++
      "return[\x7bname:'PDF Viewer',filename:'internal-pdf-viewer'," ++
      "description:'Portable Document Format'\x7d," ++
      "\x7bname:'Chrome PDF Viewer',filename:'internal-pdf-viewer'," ++
      "description:'Portable Document Format'\x7d," ++
      "\x7bname:'Chromium PDF Viewer',filename:'internal-pdf-viewer'," ++
      "description:'Portable Document Format'\x7d," ++
      "\x7bname:'Microsoft Edge PDF Viewer',filename:'internal-pdf-viewer'," ++
      "description:'Portable Document Format'\x7d," ++
      "\x7bname:'WebKit built-in PDF',filename:'internal-pdf-viewer'," ++
      "description:'Portable Document Format'\x7d];" ++
      "\x7d,configurable:true\x7d);" ++
      "\x7dcatch(e)\x7b\x7d" ++
      "try\x7b" ++
      "Object.defineProperty(navigator,'languages'," ++
      "\x7bget:function()\x7breturn['en-US','en'];\x7d,configurable:true\x7d);" ++
      "\x7dcatch(e)\x7b\x7d")]

/-- The names that `GenerateFeatureConsistencyProtector` hides. -/
def hiddenApis (platform : String) : List String :=
  (if platform = "windows" ∨ platform = "macos" ∨ platform = "linux" then
    ["mediaSession", "virtualKeyboard", "wakeLock"] else []) ++
  (if platform = "linux" then ["bluetooth", "serial"] else []) ++
  (if platform = "macos" then ["serial"] else [])

/-- `GenerateFeatureConsistencyProtector`. -/
def generateFeatureConsistencyProtector (platform : String) : Script :=
  let apis := hiddenApis platform
  if platform = "" ∨ apis = [] then []
  else [
    .text ("try\x7b" ++
        "var _hidden=["),
    .text (",".intercalate (apis.map fun name => "'" ++ name ++ "'")),
    .text ("];" ++
        "for(var _i=0;_i<_hidden.length;_i++)\x7b" ++
        "var _api=_hidden[_i];" ++
        "try\x7b" ++
        "if(_api in navigator)\x7b" ++
        "Object.defineProperty(navigator,_api,\x7bvalue:undefined," ++
        "writable:false,configurable:true\x7d);" ++
        "\x7d" ++
        "\x7dcatch(e)\x7b\x7d" ++
        "try\x7b" ++
        "if(_api in window)\x7b" ++
        "Object.defineProperty(window,_api,\x7bvalue:undefined," ++
        "writable:false,configurable:true\x7d);" ++
        "\x7d" ++
        "\x7dcatch(e)\x7b\x7d" ++
        "\x7d" ++
        "\x7dcatch(e)\x7b\x7d")]

/-- `std::string::find`, where it finds something. -/
def mentions (str pattern : String) : Bool :=
  str.toList.tails.any pattern.toList.isPrefixOf

/-- `GenerateWebGLExtensionFilter`. -/
def generateWebGLExtensionFilter (gpuVendor : String) : Script :=
  let blockedPatterns :=
    if mentions gpuVendor "NVIDIA" || mentions gpuVendor "AMD" then
      "'NV_','AMD_','ATI_','INTEL_','QCOM_','SAMSUNG_','IMG_'"
    else "'NV_','AMD_','ATI_','INTEL_','QCOM_'"
  [
  .text ("try\x7b" ++
      "var _blocked=["),
  .text blockedPatterns,
  .text (",'debug'];" ++
      "var _origExt=WebGLRenderingContext.prototype.getSupportedExtensions;" ++
      "WebGLRenderingContext.prototype.getSupportedExtensions=function()\x7b" ++
      "var e=_origExt.call(this)||[];" ++
      "return e.filter(function(x)\x7b" ++
      "for(var _b=0;_b<_blocked.length;_b++)\x7b" ++
      "if(x.indexOf(_blocked[_b])!==-1)return false;" ++
      "\x7d" ++
      "return true;" ++
      "\x7d);" ++
      "\x7d;" ++
      "if(typeof WebGL2RenderingContext!=='undefined')\x7b" ++
      "var _origExt2=WebGL2RenderingContext.prototype.getSupportedExtensions;" ++
      "WebGL2RenderingContext.prototype.getSupportedExtensions=function()\x7b" ++
      "var e=_origExt2.call(this)||[];" ++
      "return e.filter(function(x)\x7b" ++
      "for(var _b=0;_b<_blocked.length;_b++)\x7b" ++
      "if(x.indexOf(_blocked[_b])!==-1)return false;" ++
      "\x7d" ++
      "return true;" ++
      "\x7d);" ++
      "\x7d;" ++
      "\x7d" ++
      "\x7dcatch(e)\x7b\x7d")]

/-- `GeneratePerformanceProtector`. -/
def generatePerformanceProtector : Script := [
  .text ("try\x7b" ++
      "var _origNow=performance.now.bind(performance);" ++
      "performance.now=function()\x7b" ++
      "return Math.floor(_origNow()*10)/10;" ++
      "\x7d;" ++
      "if(performance.memory)\x7b" ++
      "Object.defineProperty(performance,'memory',\x7bvalue:undefined," ++
      "writable:false,configurable:true\x7d);" ++
      "\x7d" ++
      "\x7dcatch(e)\x7b\x7d")]

/-- The latitude and the longitude for a timezone, as `%f` prints them. -/
def coordinates (timezone : String) : String × String :=
  if mentions timezone "Europe" then ("48.856600", "2.352200")
  else if mentions timezone "Asia/Shanghai" || mentions timezone "Asia/Hong_Kong" then ("31.230400", "121.473700")
  else if mentions timezone "Asia/Tokyo" then ("35.676200", "139.650300")
  else if mentions timezone "Australia" then ("-33.868800", "151.209300")
  else if mentions timezone "America/Los_Angeles" then ("34.052200", "-118.243700")
  else ("40.712800", "-74.006000")

/-- `GenerateGeolocationProtector`, for a place other than the one at zero. -/
def generateGeolocationProtector (lat lng : String) : Script := [
  .text ("try\x7b" ++
      "var _pos=\x7bcoords:\x7blatitude:"),
  .text lat,
  .text ",longitude:",
  .text lng,
  .text ("," ++
      "accuracy:100,altitude:null,altitudeAccuracy:null," ++
      "heading:null,speed:null\x7d,timestamp:Date.now()\x7d;" ++
      "var _origGet=navigator.geolocation.getCurrentPosition;" ++
      "navigator.geolocation.getCurrentPosition=function(success,error,opts)\x7b" ++
      "setTimeout(function()\x7bsuccess(_pos);\x7d,50);" ++
      "\x7d;" ++
      "navigator.geolocation.watchPosition=function(success,error,opts)\x7b" ++
      "setTimeout(function()\x7bsuccess(_pos);\x7d,50);" ++
      "var _id=Math.floor(Math.random()*99999)+1;" ++
      "return _id;" ++
      "\x7d;" ++
      "\x7dcatch(e)\x7b\x7d")]

/-- `GenerateBatteryProtector`. -/
def generateBatteryProtector : Script := [
  .text ("try\x7b" ++
      "if(navigator.getBattery)\x7b" ++
      "var _origGetBattery=navigator.getBattery.bind(navigator);" ++
      "navigator.getBattery=function()\x7b" ++
      "return _origGetBattery().then(function(battery)\x7b" ++
      "Object.defineProperties(battery,\x7b" ++
      "charging:\x7bget:function()\x7breturn true;\x7d,configurable:true\x7d," ++
      "chargingTime:\x7bget:function()\x7breturn 0;\x7d,configurable:true\x7d," ++
      "dischargingTime:\x7bget:function()\x7breturn Infinity;\x7d,configurable:true\x7d," ++
      "level:\x7bget:function()\x7breturn 1.0;\x7d,configurable:true\x7d" ++
      "\x7d);" ++
      "return battery;" ++
      "\x7d);" ++
      "\x7d;" ++
      "\x7d" ++
      "\x7dcatch(e)\x7b\x7d")]

/-- `GenerateNetworkInfoProtector`. -/
def generateNetworkInfoProtector : Script := [
  .text ("try\x7b" ++
      "if(navigator.connection)\x7b" ++
      "Object.defineProperties(navigator.connection,\x7b" ++
      "effectiveType:\x7bget:function()\x7breturn '4g';\x7d,configurable:true\x7d," ++
      "downlink:\x7bget:function()\x7breturn 10;\x7d,configurable:true\x7d," ++
      "rtt:\x7bget:function()\x7breturn 50;\x7d,configurable:true\x7d," ++
      "saveData:\x7bget:function()\x7breturn false;\x7d,configurable:true\x7d" ++
      "\x7d);" ++
      "\x7d" ++
      "\x7dcatch(e)\x7b\x7d")]

/-- `GenerateHardwareConcurrencyProtector`. -/
def generateHardwareConcurrencyProtector (hwConcurrency : Int32) : Script :=
  if hwConcurrency ≤ 0 then []
  else [
    .text ("try\x7b" ++
        "Object.defineProperty(navigator,'hardwareConcurrency'," ++
        "\x7bget:function()\x7breturn "),
    .number hwConcurrency,
    .text (";\x7d,configurable:true\x7d);" ++
        "\x7dcatch(e)\x7b\x7d")]

/-- `GenerateScreenProtector`. -/
def generateScreenProtector (width height : Int32) : Script :=
  if width ≤ 0 ∨ height ≤ 0 then []
  else [
    .text ("try\x7b" ++
        "var _w="),
    .number width,
    .text ",_h=",
    .number height,
    .text (";" ++
        "Object.defineProperties(screen,\x7b" ++
        "width:\x7bget:function()\x7breturn _w;\x7d,configurable:true\x7d," ++
        "height:\x7bget:function()\x7breturn _h;\x7d,configurable:true\x7d," ++
        "availWidth:\x7bget:function()\x7breturn _w;\x7d,configurable:true\x7d," ++
        "availHeight:\x7bget:function()\x7breturn _h;\x7d,configurable:true\x7d," ++
        "colorDepth:\x7bget:function()\x7breturn 24;\x7d,configurable:true\x7d," ++
        "pixelDepth:\x7bget:function()\x7breturn 24;\x7d,configurable:true\x7d" ++
        "\x7d);" ++
        "\x7dcatch(e)\x7b\x7d")]

/-- `GenerateColorSchemeProtector`. -/
def generateColorSchemeProtector (scheme : String) : Script :=
  if scheme = "" then []
  else [
    .text ("try\x7b" ++
        "var _matchMedia=window.matchMedia;" ++
        "window.matchMedia=function(query)\x7b" ++
        "var m=_matchMedia.call(window,query);" ++
        "if(query.indexOf('prefers-color-scheme')!==-1)\x7b" ++
        "var _origGet=m.__lookupGetter__('matches');" ++
        "Object.defineProperty(m,'matches',\x7bget:function()\x7b" ++
        "return query.indexOf('dark')!==-1?"),
    .text (if scheme = "dark" then "true" else "false"),
    .text (":" ++
        "query.indexOf('light')!==-1?"),
    .text (if scheme = "light" then "true" else "false"),
    .text (":" ++
        "false;" ++
        "\x7d,configurable:true\x7d);" ++
        "\x7d" ++
        "return m;" ++
        "\x7d;" ++
        "\x7dcatch(e)\x7b\x7d")]

/-! ## The whole script -/

/-- A script and the line end behind it. -/
def Script.line (script : Script) : Script :=
  script ++ [.text "\n"]

/-- The text of `GenerateProtectionScript`, with the two scripts that have strings escaped in a loop. -/
def joinProtectors (workspace : Workspace) (webGL timezone : Script) : Script :=
  let seed := workspace.fingerprintSeed
  let place := coordinates workspace.timezone
  [.text "(function()\x7b", .text (generatePRNGFunction seed), .text "\n"] ++
    (generateCanvasProtector seed).line ++
    webGL.line ++
    (generateAudioProtector seed).line ++
    (generateFontProtector seed).line ++
    generateWebRTCProtector.line ++
    generateWebdriverRemover.line ++
    (if workspace.hardwareConcurrency > 0 then
      (generateHardwareConcurrencyProtector workspace.hardwareConcurrency).line else []) ++
    (if workspace.screenWidth > 0 ∧ workspace.screenHeight > 0 then
      (generateScreenProtector workspace.screenWidth workspace.screenHeight).line else []) ++
    (if workspace.timezone ≠ "" then timezone.line else []) ++
    (if workspace.platform ≠ "" then (generatePlatformProtector workspace.platform).line else []) ++
    (if workspace.colorScheme ≠ "" then (generateColorSchemeProtector workspace.colorScheme).line else []) ++
    (if workspace.platform ≠ "" then (generateFeatureConsistencyProtector workspace.platform).line else []) ++
    (if workspace.gpuVendor ≠ "" then (generateWebGLExtensionFilter workspace.gpuVendor).line else []) ++
    generatePerformanceProtector.line ++
    (if workspace.timezone ≠ "" then (generateGeolocationProtector place.1 place.2).line else []) ++
    generateBatteryProtector.line ++
    generateNetworkInfoProtector.line ++
    [.text "\x7d)();"]

/-- `GenerateProtectionScript`. -/
def generateProtectionScript [EscapeJSONString] (passes : Nat) (workspace : Workspace) : Option Script :=
  if workspace.fingerprintSeed = 0 then some []
  else do
    let webGL ← generateWebGLProtector passes workspace
    let timezone ← generateTimezoneProtector passes workspace.timezone
    return joinProtectors workspace webGL timezone

/-- The width of `GenerateScreenOverrides`. -/
def overrideWidth (workspace : Workspace) : Int32 :=
  if workspace.screenWidth > 0 then workspace.screenWidth else 1366

/-- The height of `GenerateScreenOverrides`. -/
def overrideHeight (workspace : Workspace) : Int32 :=
  if workspace.screenHeight > 0 then workspace.screenHeight else 768

/-- `GenerateScreenOverrides`. -/
def generateScreenOverrides (workspace : Workspace) : Script := [
  .text ("(function()\x7b" ++
      "var _s=window.screen;" ++
      "if(!_s)return;" ++
      "try\x7b" ++
      "window.screen=new Proxy(_s,\x7b" ++
      "get:function(t,p)\x7b" ++
      "if(p==='width'||p==='availWidth')return "),
  .number (overrideWidth workspace),
  .text (";" ++
      "if(p==='height'||p==='availHeight')return "),
  .number (overrideHeight workspace),
  .text (";" ++
      "if(p==='availLeft')return 0;" ++
      "if(p==='availTop')return 0;" ++
      "var v=t[p];" ++
      "return typeof v==='function'?v.bind(t):v;" ++
      "\x7d" ++
      "\x7d);" ++
      "\x7dcatch(e)\x7b\x7d" ++
      "\x7d)();")]

/-- `HumanizeEngine::GenerateScript`. -/
class HumanizeEngine where
  generateScript : String → String

/-- `GenerateInjectionScript`. -/
def generateInjectionScript [EscapeJSONString] [HumanizeEngine] (passes : Nat) (workspace : Workspace)
    (includeAntiDetection : Bool) : Option Script := do
  let navigator ← generateNavigatorOverrides passes workspace
  let script := navigator.line ++ generateScreenOverrides workspace
  if includeAntiDetection then
    let protection ← generateProtectionScript passes workspace
    let script := if protection = [] then script else script.line ++ protection
    let humanize := HumanizeEngine.generateScript workspace.humanPreset
    return if workspace.humanize && humanize ≠ "" then script.line ++ [.text humanize] else script
  else return script

/-! ## The literals -/

/-- Whether every quoted string ends at the quote of the emitter. -/
def Script.closed : Script → Bool
  | [] => true
  | .literal body :: script =>
    (scan .plain (body ++ '\'' :: Script.print script)).map Prod.snd = some (Script.print script) &&
      Script.closed script
  | .text _ :: script | .number _ :: script => Script.closed script

/-- What is between the quotes. -/
def Script.literals (script : Script) : List (List Char) :=
  script.filterMap fun
    | .literal body => some body
    | .text _ | .number _ => none

/-- A script is closed when each of its literals is. -/
lemma Script.closed_iff (script : Script) : script.closed = true ↔ ∀ body ∈ script.literals, Enclosed body := by
  induction script with
  | nil => exact iff_of_true rfl fun body mem => by cases mem
  | cons part script ih =>
    cases part with
    | text s => exact ih
    | number n => exact ih
    | literal body =>
      have cons : Script.literals (.literal body :: script) = body :: Script.literals script := rfl
      rw [cons, List.forall_mem_cons, ← ih, Script.closed, Bool.and_eq_true, decide_eq_true_iff, scan_behind_iff]
      rfl

/-- The literals of two scripts. -/
@[simp] lemma Script.literals_append (first others : Script) :
    Script.literals (first ++ others) = first.literals ++ others.literals :=
  List.filterMap_append

/-- The end of a line is no literal. -/
@[simp] lemma Script.literals_line (script : Script) : script.line.literals = script.literals := by
  rw [Script.line, Script.literals_append]
  exact List.append_nil _

/-- The literals of a script that is there or not. -/
@[simp] lemma Script.literals_ite (p : Prop) [Decidable p] (script : Script) :
    Script.literals (if p then script else []) = if p then Script.literals script else [] := by
  split_ifs
  · rfl
  · rfl

/-- The strings of a workspace stay inside of their literals: its platform, and its timezone where the script of
`AntiDetectionEngine` comes with it. -/
def StringsEnclosed (workspace : Workspace) (includeAntiDetection : Bool) : Prop :=
  Enclosed (cStr (navigatorPlatform workspace.platform).toList) ∧
  (includeAntiDetection = true → workspace.fingerprintSeed ≠ 0 →
    Enclosed (cStr (workspace.timezone.toList.flatMap escapeQuote)))

instance (workspace : Workspace) (includeAntiDetection : Bool) :
    Decidable (StringsEnclosed workspace includeAntiDetection) :=
  inferInstanceAs (Decidable (_ ∧ (_ → _ → _)))

/-- With enough passes `GenerateTimezoneProtector` ends. -/
lemma generateTimezoneProtector_eq {passes : Nat} {tz : String} (long : passes > tz.toList.length) :
    generateTimezoneProtector passes tz =
      some (if tz = "" then [] else timezoneScript (tz.toList.flatMap escapeQuote)) := by
  rw [generateTimezoneProtector, escapeLoop_eq long]
  split_ifs
  · rfl
  · rfl

/-- A platform has one literal, the same as in the overrides. -/
lemma literals_generatePlatformProtector {platform : String} (h : platform ≠ "") :
    (generatePlatformProtector platform).literals = [cStr (navigatorPlatform platform).toList] := by
  rw [generatePlatformProtector, if_neg h, navigatorPlatform_eq h]
  rfl

section
variable [EscapeJSONString]

/-- A text that `EscapeForLiteral` has escaped stays in its literal. -/
lemma enclosed_escaped (documented : AsDocumented) (str : String) : Enclosed (cStr (escaped str)) := by
  rw [Enclosed, escaped_scan documented str []]
  rfl

/-- The literals of the vendor and the renderer, if there are any. -/
lemma enclosed_webGL (documented : AsDocumented) (vendor renderer : String) :
    ∀ body ∈ Script.literals (if escaped vendor = [] ∧ escaped renderer = [] then webGLExtensions
      else webGLParameters (escaped vendor) (escaped renderer)), Enclosed body := by
  split_ifs
  · intro body mem
    cases mem
  · have both : (webGLParameters (escaped vendor) (escaped renderer)).literals =
        [cStr (escaped vendor), cStr (escaped renderer)] := rfl
    rw [both, List.forall_mem_cons, List.forall_mem_singleton]
    exact ⟨enclosed_escaped documented vendor, enclosed_escaped documented renderer⟩

omit [EscapeJSONString] in
/-- What else there is in the script of `AntiDetectionEngine` has no string of the workspace in it. -/
lemma literals_joinProtectors (workspace : Workspace) (webGL timezone : Script) :
    (joinProtectors workspace webGL timezone).literals =
      webGL.literals ++ ((if workspace.timezone ≠ "" then timezone.literals else []) ++
        if workspace.platform ≠ "" then (generatePlatformProtector workspace.platform).literals else []) := by
  have canvas (seed : Int32) : (generateCanvasProtector seed).literals = [] := rfl
  have audio (seed : Int32) : (generateAudioProtector seed).literals = [] := rfl
  have font (seed : Int32) : (generateFontProtector seed).literals = [] := rfl
  have webRTC : generateWebRTCProtector.literals = [] := rfl
  have webdriver : generateWebdriverRemover.literals = [] := rfl
  have concurrency (n : Int32) : (generateHardwareConcurrencyProtector n).literals = [] := by
    rw [generateHardwareConcurrencyProtector]
    split_ifs <;> rfl
  have screen (width height : Int32) : (generateScreenProtector width height).literals = [] := by
    rw [generateScreenProtector]
    split_ifs <;> rfl
  have color (scheme : String) : (generateColorSchemeProtector scheme).literals = [] := by
    rw [generateColorSchemeProtector]
    split_ifs <;> rfl
  have feature (platform : String) : (generateFeatureConsistencyProtector platform).literals = [] := by
    rw [generateFeatureConsistencyProtector]
    split_ifs <;> rfl
  have extension (vendor : String) : (generateWebGLExtensionFilter vendor).literals = [] := rfl
  have performance : generatePerformanceProtector.literals = [] := rfl
  have geolocation (lat lng : String) : (generateGeolocationProtector lat lng).literals = [] := rfl
  have battery : generateBatteryProtector.literals = [] := rfl
  have network : generateNetworkInfoProtector.literals = [] := rfl
  have text (s : String) (script : Script) : Script.literals (.text s :: script) = script.literals := rfl
  have nil : Script.literals [] = [] := rfl
  rw [joinProtectors]
  simp only [Script.literals_append, Script.literals_line, Script.literals_ite, canvas, audio, font, webRTC, webdriver,
    concurrency, screen, color, feature, extension, performance, geolocation, battery, network, text, nil, ite_self,
    List.nil_append, List.append_nil, List.append_assoc]

/-- The script of `AntiDetectionEngine` after all passes. -/
def protectionText (workspace : Workspace) : Script :=
  if workspace.fingerprintSeed = 0 then []
  else joinProtectors workspace
    (if escaped workspace.gpuVendor = [] ∧ escaped workspace.gpuRenderer = [] then webGLExtensions
      else webGLParameters (escaped workspace.gpuVendor) (escaped workspace.gpuRenderer))
    (if workspace.timezone = "" then [] else timezoneScript (workspace.timezone.toList.flatMap escapeQuote))

/-- With enough passes `GenerateProtectionScript` ends. -/
lemma generateProtectionScript_eq {passes : Nat} {workspace : Workspace}
    (vendor : passes > (escapeJSONString workspace.gpuVendor).length)
    (renderer : passes > (escapeJSONString workspace.gpuRenderer).length)
    (tz : passes > workspace.timezone.toList.length) :
    generateProtectionScript passes workspace = some (protectionText workspace) := by
  rw [generateProtectionScript, protectionText]
  by_cases seed : workspace.fingerprintSeed = 0
  · rw [if_pos seed, if_pos seed]
  · rw [if_neg seed, if_neg seed, generateWebGLProtector_eq vendor renderer, generateTimezoneProtector_eq tz]
    rfl

/-- The strings in the script of `AntiDetectionEngine`, if there is one: the platform is the same as in the
overrides. -/
lemma enclosed_protection (documented : AsDocumented) {workspace : Workspace}
    (platform : Enclosed (cStr (navigatorPlatform workspace.platform).toList)) :
    (∀ body ∈ (protectionText workspace).literals, Enclosed body) ↔
      (workspace.fingerprintSeed ≠ 0 → Enclosed (cStr (workspace.timezone.toList.flatMap escapeQuote))) := by
  by_cases seed : workspace.fingerprintSeed = 0
  · rw [protectionText, if_pos seed]
    refine iff_of_true ?_ fun h => absurd seed h
    intro body mem
    cases mem
  rw [protectionText, if_neg seed, literals_joinProtectors, List.forall_mem_append, List.forall_mem_append,
    and_iff_right (enclosed_webGL documented _ _), forall_prop_of_true seed]
  have same : ∀ body ∈ (if workspace.platform ≠ "" then (generatePlatformProtector workspace.platform).literals
      else []), Enclosed body := by
    split_ifs with there
    · rw [literals_generatePlatformProtector there, List.forall_mem_singleton]
      exact platform
    · intro body mem
      cases mem
  rw [and_iff_left same]
  by_cases empty : workspace.timezone = ""
  · rw [if_neg (not_not.mpr empty), empty]
    exact iff_of_true (fun body mem => by cases mem) rfl
  · have one : (timezoneScript (workspace.timezone.toList.flatMap escapeQuote)).literals =
        [cStr (workspace.timezone.toList.flatMap escapeQuote)] := rfl
    rw [if_pos empty, if_neg empty, one, List.forall_mem_singleton]

/-- The strings of the overrides: that of the user agent stays inside. -/
lemma enclosed_overrides (documented : AsDocumented) (platform : String) (concurrency : Int32) (ua : String) :
    (∀ body ∈ (navigatorScript platform concurrency (escaped ua)).literals, Enclosed body) ↔
      Enclosed (cStr platform.toList) := by
  have parts : (navigatorScript platform concurrency (escaped ua)).literals =
      cStr platform.toList :: (userAgentOverride (escaped ua)).literals := by
    rw [navigatorScript, Script.literals_append, Script.literals_append]
    exact List.append_nil _
  rw [parts, List.forall_mem_cons]
  apply and_iff_left
  rw [userAgentOverride]
  split_ifs
  · intro body mem
    cases mem
  · have one (body : List Char) : Script.literals [.text "userAgent:\x7bget:function()\x7breturn ",
        .literal body, .text ";\x7d\x7d,"] = [body] := rfl
    rw [one, List.forall_mem_singleton]
    exact enclosed_escaped documented ua

/-- The overrides after all passes. -/
def overridesText (workspace : Workspace) : Script :=
  (navigatorScript (navigatorPlatform workspace.platform) (navigatorConcurrency workspace.hardwareConcurrency)
    (escaped workspace.userAgent)).line ++ generateScreenOverrides workspace

/-- The overrides with the script of `AntiDetectionEngine`. -/
def protectedText (workspace : Workspace) : Script :=
  if protectionText workspace = [] then overridesText workspace
  else (overridesText workspace).line ++ protectionText workspace

/-- The whole script after all passes. -/
def injectionText [HumanizeEngine] (workspace : Workspace) (includeAntiDetection : Bool) : Script :=
  let humanize := HumanizeEngine.generateScript workspace.humanPreset
  if includeAntiDetection then
    if workspace.humanize && humanize ≠ "" then (protectedText workspace).line ++ [.text humanize]
    else protectedText workspace
  else overridesText workspace

/-- With enough passes `GenerateInjectionScript` ends. -/
lemma generateInjectionScript_eq [HumanizeEngine] {passes : Nat} {workspace : Workspace}
    (ua : passes > (escapeJSONString workspace.userAgent).length)
    (vendor : passes > (escapeJSONString workspace.gpuVendor).length)
    (renderer : passes > (escapeJSONString workspace.gpuRenderer).length)
    (tz : passes > workspace.timezone.toList.length) (includeAntiDetection : Bool) :
    generateInjectionScript passes workspace includeAntiDetection =
      some (injectionText workspace includeAntiDetection) := by
  unfold generateInjectionScript
  rw [generateNavigatorOverrides_eq ua, generateProtectionScript_eq vendor renderer tz]
  cases includeAntiDetection <;> rfl

/-- The whole script is made. -/
lemma generateInjectionScript_ends [HumanizeEngine] (workspace : Workspace) (includeAntiDetection : Bool) :
    ∃ passes, ∀ n ≥ passes, generateInjectionScript n workspace includeAntiDetection =
      some (injectionText workspace includeAntiDetection) := by
  refine ⟨max (escapeJSONString workspace.userAgent).length (max (escapeJSONString workspace.gpuVendor).length
    (max (escapeJSONString workspace.gpuRenderer).length workspace.timezone.toList.length)) + 1, ?_⟩
  intro n long
  apply generateInjectionScript_eq <;> omega

/-- The strings of the whole script. -/
lemma enclosed_injectionText [HumanizeEngine] (documented : AsDocumented) (workspace : Workspace)
    (includeAntiDetection : Bool) :
    (∀ body ∈ (injectionText workspace includeAntiDetection).literals, Enclosed body) ↔
      StringsEnclosed workspace includeAntiDetection := by
  have overrides : (overridesText workspace).literals = (navigatorScript (navigatorPlatform workspace.platform)
      (navigatorConcurrency workspace.hardwareConcurrency) (escaped workspace.userAgent)).literals := by
    rw [overridesText, Script.literals_append, Script.literals_line]
    exact List.append_nil _
  have protection : (protectedText workspace).literals =
      (overridesText workspace).literals ++ (protectionText workspace).literals := by
    rw [protectedText]
    split_ifs with none
    · rw [none]
      exact (List.append_nil _).symm
    · rw [Script.literals_append, Script.literals_line]
  rw [StringsEnclosed]
  cases includeAntiDetection with
  | false =>
    show (∀ body ∈ (overridesText workspace).literals, _) ↔ _
    rw [overrides, enclosed_overrides documented]
    exact (and_iff_left fun h => absurd h Bool.false_ne_true).symm
  | true =>
    have all : (injectionText workspace true).literals = (protectedText workspace).literals := by
      rw [injectionText, if_pos rfl]
      split_ifs
      · rw [Script.literals_append, Script.literals_line]
        exact List.append_nil _
      · rfl
    rw [all, protection, overrides, List.forall_mem_append, enclosed_overrides documented, forall_prop_of_true rfl]
    exact and_congr_right fun platform => enclosed_protection documented platform

/-- The whole script is made, and all its literals end where they should exactly when the strings of the workspace stay
inside of theirs. -/
lemma generateInjectionScript_closed [HumanizeEngine] (documented : AsDocumented) (workspace : Workspace)
    (includeAntiDetection : Bool) :
    (∃ passes, ∀ n ≥ passes, generateInjectionScript n workspace includeAntiDetection =
      some (injectionText workspace includeAntiDetection)) ∧
    ((injectionText workspace includeAntiDetection).closed = true ↔
      StringsEnclosed workspace includeAntiDetection) := by
  refine ⟨generateInjectionScript_ends workspace includeAntiDetection, ?_⟩
  rw [Script.closed_iff]
  exact enclosed_injectionText documented workspace includeAntiDetection

end

end PureCloak.Content
