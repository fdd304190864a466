import ParcelPricing.Files

namespace ParcelPricing

/-- Faults of a run. -/
inductive RunFault where
  | pricing (reason : String)
  | parse (reason : String)
  | input (fault : InputFault)

def RunFault.message : RunFault → String
  | pricing reason => "定价配置无效: " ++ reason
  | parse reason => "输入解析失败: " ++ reason
  | input fault => "读取输入失败: " ++ fault.message

/-- Faults of settings. -/
inductive SettingsFault where
  | loading (reason : String)
  | invalid (reason : String)
  | invalidField (field reason : String)
  | internal (reason : String)

def SettingsFault.message : SettingsFault → String
  | loading reason => "配置加载失败: " ++ reason
  | invalid reason => "参数验证失败: " ++ reason
  | invalidField field reason => "无效的参数: " ++ field ++ " - " ++ reason
  | internal reason => "内部错误: " ++ reason

def SettingsFault.code : SettingsFault → String
  | loading _ => "CONFIG_ERROR"
  | invalid _ => "VALIDATION_ERROR"
  | invalidField .. => "INVALID_ARGUMENT"
  | internal _ => "INTERNAL_ERROR"

end ParcelPricing
