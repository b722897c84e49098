import PlanterTelemetry.Analytics.Model

open planter_telemetry.analytics.model

namespace planter_telemetry.analytics.config

theorem default_water_target_range : (0 : ℚ) ≤ 10 ∧ (10 : ℚ) ≤ 100 := by norm_num
theorem default_battery_target_range : (5 / 2 : ℚ) ≤ 34 / 10 ∧ (34 / 10 : ℚ) ≤ 22 / 5 := by norm_num
theorem default_water_alert_positive : (0 : ℚ) < 2 := by norm_num
theorem default_battery_alert_positive : (0 : ℚ) < 3 := by norm_num
theorem default_cooldown_positive : (0 : ℚ) < 24 := by norm_num

/-- The settings an analytics pass reads, with the constraints that pydantic
    puts on them. -/
structure AnalyticsSettings where
  water_target_pct : ℚ := 10
  battery_target_volts : ℚ := 34 / 10
  water_alert_days : ℚ := 2
  battery_alert_days : ℚ := 3
  alert_cooldown_hours : ℚ := 24
  ntfy_url : String := ""
  water_target_range : 0 ≤ water_target_pct ∧ water_target_pct ≤ 100 := by exact default_water_target_range
  battery_target_range : 5 / 2 ≤ battery_target_volts ∧ battery_target_volts ≤ 22 / 5 := by
    exact default_battery_target_range
  water_alert_positive : 0 < water_alert_days := by exact default_water_alert_positive
  battery_alert_positive : 0 < battery_alert_days := by exact default_battery_alert_positive
  cooldown_positive : 0 < alert_cooldown_hours := by exact default_cooldown_positive

namespace AnalyticsSettings

variable (settings : AnalyticsSettings)

/-- The two metrics with the configured overrides. -/
def metrics : List (Metric ℚ) :=
  [{ WATER with
      target := settings.water_target_pct
      alert_horizon_seconds := settings.water_alert_days * 86400 },
    { BATTERY with
      target := settings.battery_target_volts
      alert_horizon_seconds := settings.battery_alert_days * 86400 }]

def cooldown_seconds : ℚ := settings.alert_cooldown_hours * 3600

theorem alert_horizon_positive {settings : AnalyticsSettings} {metric : Metric ℚ}
    (h : metric ∈ settings.metrics) : 0 < metric.alert_horizon_seconds := by
  unfold metrics at h
  rcases List.mem_cons.mp h with rfl | hbattery
  · exact mul_pos settings.water_alert_positive (by norm_num)
  · rw [List.mem_singleton.mp hbattery]
    exact mul_pos settings.battery_alert_positive (by norm_num)

end AnalyticsSettings

end planter_telemetry.analytics.config
