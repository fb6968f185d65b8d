/-!
# Weights of characters in reading order

The order of all letters and signs, the characters whose weights it does not give by itself, and the pairs that weigh other than
their parts one after the other.
-/

namespace QualityGate.Collation.Table

/-- Letters and signs in reading order, blanks first, then punctuation, signs, currencies, digits and letters: a code, or with a
star a number of neighbours. A word after an equals sign holds the neighbours that stand where the word before it starts; a digit
and a colon in it say at which digit they start instead. -/
def order : String :=
  "9*5 85 2028*2 20 203E 5F 2017 2D 58A 1400 1B60 1B7D*2 1806*2 2010 2012*4 2E3A*2 2053 2E43 2E17 2E40 301C 3030 30A0 30FB
   10EAD 2C 2E34 2E32 2E41 2E4C 2E4E*2 55D 60C*2 66B*2 7F8 1802 1808 A4FE A60D A6F5 16E97 3001 FE45*2 16FE2 3B 61B 61D 204F
   2E35 A6F6 2E49 3A 589 61E 703*6 830*F 1361 1363*4 1804*2 F14 17D6 1B5D A9C7 16EB*3 A6F4 21 A1 55C 7F9 1944 1E95E 3F BF
   2E2E 55E 61F 709 1367 1945 2CFA*2 A60F A6F7 AAF1 11143 1E95F 203D 2E18 2E 1801 6D4 701*2 1362 1803 1809 166E 1B5C 2CF9
   2CFE 2E30 2E3C A4FF A60E A6F3 16AF5 16E98 1BC9F 3002 B7 2E31 2E33 964*2 A8CE*2 1C3B*2 A876*2 1735*2 A92F 104A*2 17D4*2
   1AA8*4 1B5E*2 A9C8*2 AA5D*3 AAF0 ABEB 10A56*2 11047*2 110C0*2 11141*2 111C5*2 11238*2 1144B*2 115C2*2 11641*2 1173C*2
   11944 11C41*2 16A6E*2 1C7E*2 700 7F7 10FB 1360 1368 1A1E*2 1B5A*2 A9C1*6 A9CA*4 A6F2 A95F 10857 10B3A*6 10F55*5 10F86*4
   110BE*2 11140 111C8 111DE*2 112A9 1173E 11946 11EF7*2 11F43*D 2055*2 2058*7 2E2A*4 2E3D 2CFC 2CFF 2E19 1093F 10100*3
   1039F 103D0 1091F 12470*5 12FF1*2 27 2018*4 2039*2 22 201C*4 2E42 301D*3 AB BB 28*2 5B 5D 7B 7D F3A*4 169B*2 2045*2
   2308*4 29FC*2 2983*16 27C5*2 27E6*A 2768*E 2E02*4 2E09*2 2E0C*2 2E1C*2 2E20*A 3008*A 3014*8 FD3E*2 2016 2E3E 29D8*4 A7
   2E39 B6 204B 2E4D 2E3F 40 2A 204E 2051 66D A673 2F 5C 2E4A 26 204A 2E52*C 23 25 66A 2030 609 2031 60A 2020*2 2E36*3 2E4B
   2022*2 2027 2043 204C*2 2032 2035 3003 303D 2038 203B 203F 2054 2040 2050 2041*2 2E00*2 2E06*3 2E0B 2E0E*9 2E1A*2 2E1E*2
   2E44*5 A67E 55A*2 55F 5BE 5C0 5C3 5C6 5F3*2 70A*4 85E 1800 11660*D 116B9 970 A8F8*3 A8FC 9FD A76 AF0 C77 C84 DF4 E4F
   E5A*2 AADE*2 F04*7 FD0*2 F0B F0D*6 F85 FD2*3 FD9*2 11A3F*8 11A9A*3 11A9E*5 11B00*A 11C70*2 1C3D*3 104C*4 17D8*3 1AA0*7
   1AAC*2 1CC0*8 2D70 A874*2 1BFC*4 A92E A9DE*2 AA5C 1056F 11049*5 10A50*6 10A58 11C43*3 10B39 10AF0*7 10B99*4 110BB*2
   11174*2 111CD 111C7 111DB 111DD 1123A*4 1144D 1145A 1144E*2 1145B 1145D 114C6 115C1 115C4*14 11643 1183B 11945 119E2
   11FFF 16B37*5 16B44 16E99*2 1DA87*5 10A7F 60 B4 =384 2DC 5E AF 2D8*2 A8 2DA 2DD B8 2DB 1FBD =1FBF 1FFE 1FC0 309B*2 2B9
   375 2BA 2C2*E 2D2*4 AB6A*2 2D6*2 2DE*2 2E5*9 2EF*11 1390*A A700*22 A788*3 AB5B B0 482 58D*2 608 1EEF0*2 60E*2 6DE 6E9
   FDFD*3 FBB2*11 FD40*10 FDCF 7F6 9FA B70 BF3*6 BFA 11FD5*8 11FE1*11 C7F D4F D79 A828*4 A836*2 A839 F01*3 F13 F15*3 F1A*6
   F34 F36 F38 FBE*8 FC7*6 FCE*2 FD5*4 166D 1940 109E*2 AA77*3 1173F*8 19E0*20 1B61*A 1B74*9 A9 1F12F AE 1F1AD 2104 2108
   2114 2117*2 211E*2 2123 2125 2127 2129 212E 213A 2141*4 214A 214C 214F 218A*2 2190 2192 2191 2193*7 219C*12 21AF*1E
   21D0*34 2205*4 220A*2 220D 3F6 220E*4 2B B1 F7 D7 3C*3 AC 7C A6 7E 2212 2052 2213*3 2044 2216*6 606 221C 607 221D*7 2225
   2227*5 222E 2231*10 2242*2 2245*2 2248 224A*16 2261 2263*A 2272*2 2276*2 227A*6 2282*2 2286*2 228A*22 22B0*D 214B 22BD*23
   22E4*6 22EE*1A 230C*1D 232B*FC 2440*B 2500*100 1FB00*93 1FB94*37 2600*30 2638*35 2670*1A 2690*70 1F1E6*1A 2700*21 2E50*2
   2721*47 2794*31 27C7*1F 27F0*10 2900*83 2999*3F 29DC*20 29FE*E 2A0D*67 2A77*65 2ADD*97 2B76*20 2B97*69 2CE5*6 2800*100
   268A*6 2630*8 4DC0*40 1D300*57 A490*37 10137*9 10179*11 1018C*3 10190*D 101A0 101D0*2D 10877*2 16B3C*4 16B45 1E14F
   1E290*1E 1D000*F6 1D100*27 266D*3 1D12A*10 1D129 1D13A*24 1D16A*3 1D183*2 1D18C*1E 1D1AE*D 1D1C1*2A 1D200*42 1D245 1BC9C
   1CF50*74 1ECAC 1ED2E 1F000*2C 1F030*64 1F0A0*F 1F0B1*F 1F0C1*F 1F0D1*25 1FA00*54 1FA60*E 1F10D*3 1F16D*3 1F260*6
   1F300*300 1F900*100 1FA70*D 1FA80*9 1FA90*2E 1FABF*7 1FACE*E 1FAE0*9 1FAF0*9 1F600*D8 1F6DC*11 1F6F0*D 1F700*77 1F77B*5F
   1F7E0*C 1F7F0 1F800*C 1F810*38 1F850*A 1F860*28 1F890*1E 1F8B0*2 1D800*200 1DA37*4 1DA6D*8 1DA76*E 1DA85*2 1DF00*1F
   1DF25*6 2FF0*C 31C0*24 3004 3012*2 3020 3037 303E*2 3190*2 327F FFFC 2D0*2 971 E46 EC6 17D7 1AA7 A9CF A9E6 AA70 AADD
   AAF3*2 16B42*2 1E13C*2 3005 303B 16FE0*2 16FE3 1AFF0*4 1AFF5*7 1AFFD*2 3031 3033 3035 309D 30FC*2 A4 A2 24 A3 A5 58F 60B
   7FE*2 9F2*2 9FB AF1 A838 BF9 11FDD*4 E3F 17DB 1E2FF 20A0*8 20A9*11 1ECB0 20BA*7 9F4*6 B72*6 A830*6 BF0*3 11FC0*15 D58*7
   D70*9 1372*B 2180*3 2186*3 10E69*16 2CFD 10322*2 10CFC*4 10110*24 10140*2 10144*4 10149*6 10150*8 10160*13 10174*5 1018B
   102EA*12 103D3*3 1087E*2 108AD*3 108FD*3 10A7E 10A9E*2 10917*3 1085B*5 10AED*3 10B5C*4 10B7C*4 10BAD*3 10F22*5 10F52*3
   10FC9*3 1173A*2 1105B*B 10A44*5 11C63*A 111EA*B 118EA*9 16B5B*7 16E8A*A 1D2C0*14 1D2EA*A 1EC7A*29 1ECAD*3 1ECB3*2
   1ED0A*24 1ED37*7 109C9*7 109D2*24 109BD 109F6*A 109BC 12432*2 1245A*F 1D369*9 30*A =660*A =6F0*A =7C0*A =966*A =9E6*A
   =A66*A =AE6*A =B66*A =BE6*A =C66*A =C78*4 =1:C7C*3 =CE6*A =D66*A =DE6*A =E50*A =ED0*A =F20*A =1040*A =1090*A =1:1369*9
   =17E0*A =17F0*A =1810*A =1946*A =19D0*A =1:19DA =1A80*A =1A90*A =1B50*A =1BB0*A =1C40*A =1C50*A =6:2185 =3007 =1:3021*9
   =A620*A =A8D0*A =A900*A =A9D0*A =A9F0*A =AA50*A =ABF0*A =1:10107*9 =1:10142 =5:10143 =5:10148 =5:1014F =1:10158 =1:10159
   =1:1015A*2 =2:1015C =2:1015D =2:1015E =5:1015F =5:10173 =1018A =1:102E1*9 =1:10320 =5:10321 =1:103D1*2 =104A0*A
   =1:10858*3 =1:10879*5 =1:108A7*4 =4:108AB*2 =1:108FB =5:108FC =1:10916 =2:1091A*2 =1:109C0*9 =1:10A40*4 =1:10A7D =1:10A9D
   =1:10AEB =5:10AEC =1:10B58*4 =1:10B78*4 =1:10BA9*4 =1:10CFA =5:10CFB =10D30*A =1:10E60*9 =1:10F1D*5 =1:10F51 =1:10FC5*4
   =1:11052*9 =11066*A =110F0*A =11136*A =111D0*A =1:111E1*9 =112F0*A =11450*A =114D0*A =11650*A =116C0*A =11730*A =118E0*A
   =11950*A =11C50*A =1:11C5A*9 =11D50*A =11DA0*A =11F50*A =2:12400*8 =3:12408*7 =4:1240F*6 =1:12415*9 =1:1241E*5 =2:12423*2
   =3:12425*7 =1:1242C*3 =3:1242F*3 =1:12434*3 =3:12437*3 =3:1243A =3:1243B*2 =4:1243D =4:1243E =4:1243F =6:12440*2 =7:12442
   =7:12443*2 =8:12445*2 =9:12447 =9:12448 =9:12449 =2:1244A*5 =1:1244F*4 =4:12453*2 =5:12455 =2:12456*2 =1:12458*2
   =4:12469*6 =16A60*A =16AC0*A =16B50*A =16E80*A =1D2E0*A =1:1D360*9 =1:1D372*5 =1:1D377 =5:1D378 =1E140*A =1E2F0*A
   =1E4F0*A =1:1E8C7*9 =1E950*A =1:1EC71*9 =1:1ECA3*9 =1:1ED01*9 61 1D00 2C65 1D8F A7BB 1D01*2 AB31 250*2 AB30 1D90 252 AB64
   62 299 180 1D2F 1D03 1D6C A797 1D80 253 183 A7B5 63 1D04 23C A793*2 188 255 2184 A73F 64 1D05*2 A7C8 1D6D 1D81 256*2 1D91
   18C 221 A771 1E9F 65 1D07 AB32*2 247 1D92 AB34 2C78 1DD 2C7B 259 1D95 25B 1D93 258 25A 25C 1D94 1D08 25D*2 29A 264 66
   A730 AB35 A799 1D6E 1D82 192 214E A7FB 67 261 AB36 262 1E5 1D83 260 29B 1D77 A77F 263 1A3 68 29C 195 A795 266 2C68 2C76
   A7F6 A727 267 2BB 2BD 69 131 26A A7FE A7F7 1D09 268 1D7B 1D96 A7BD 269 1D7C 6A 237 1D0A 249 29D 25F 284 6B 1D0B 1D84 199
   2C6A A741 A743 A745 29E 6C 29F A747 1D0C A749 19A 2C61 26B AB38*2 26C AB37 1D85 26D A78E 234 A772 26E A781 19B 28E 6D
   1D0D 1D6F 1D86 271 AB3A A7FD A7FF A773 6E 274 1D3B 1D0E 1D70 272 19E A791 1D87 273 235 AB3B A774 14B AB3C 6F 1D0F 1D11
   AB3D 276 1D14 AB41*2 AB40 AB43*2 1D13 AB3E 254 1D10 1D12 AB3F 1D97 AB62 A74D 1D16*2 2C7A 275 A74B 277 A7B7 223 1D15 70
   1D18 1D7D A751 1D71 1D88 1A5 A753 A755 A7FC 278 2C77 71 A7AF A757 A759 2A0 24B 138 72 AB45 280 AB46 A75B 1D19 24D 1D72
   279 1D1A 27A 1D89 27B 2C79 27C*2 AB49 27E 1D73 27F AB47*2 AB4A*3 281 AB68 A775*2 A75D 73 A731 A7CA A7D1 A7D3 A7D5 A7D7
   A7D9 1D74 1D8A 282 23F 1E9C*2 283 AB4D 1D8B 1AA 285 1D98 286 74 1D1B 167 2C66 1D75 1AB 1AD 288 236 A777 287 75 1D1C AB4E
   1D1D*2 1D6B AB50*2 289 AB4F A7B9 1D7E 1D99 AB52 A7BF A7C1 265 2AE*2 26F A7FA 1D1F 270 28A 1D7F 76 1D20 A75F 1D8C 28B 2C71
   2C74 1EFD 28C 77 1D21 A7C3 2C73 28D 78 1D8D AB56*4 AB53*3 79 28F 24F 1B4 1EFF AB5A 21D 7A 1D22 1B6 1D76 1D8E 225 290*2
   240 2C6C A763 292 1D23 1B9 1D9A 1BA 293 FE A765 A767 1BF A769 AB60*2 AB63 A76B A76D A76F A778 1BB A72B A72D A72F 1A8 1BD
   185 294 242 2C0 2BC 2EE 2BE A723 A78C A78F 295 2BF 2C1 1D24*2 A725 2A1*2 296 1C0*4 297*2 2AC*2 3B1*3 1D26 3B4*2 3DD 377
   3DB 3B6 371 3B7*3 3F3 3BA*2 1D27 3BC*5 1D28 3FB 3DF 3D9 3C1 1D29 3FC 3C3 37C 37B 37D 3C4*5 1D2A 3C9 AB65 3E1 373 3F8 2C81
   2C83 2C85 2C87 2C89 2CB7 2C8B 2C8D 2C8F 2C91 2C93 2C95 2CB9 2C97 2C99 2C9B 2CBB 2CBD 2C9D 2C9F 2CA1 2CA3 2CA5 2CA7 2CA9
   2CAB 2CAD 2CAF 2CB1 2CBF 2CC1 3E3 2CEC 2CC3 2CC5 2CC7 3E5 3E7 2CF3 2CC9 3E9 2CCB 2CCD 2CCF 2CD1 2CD3 2CD5 3EB 2CEE 2CD7
   3ED 2CD9 2CDB 2CDD 3EF 2CB3 2CB5 2CDF 2CE1 2CE3 430 4D9 4D5 431*3 493 4FB 495 4F7 434 501 A681 452 A663 503 499 435 454
   436 52B A685 497 437 A641 505 511 A643 455 A645 4E1 A689 507 A683 438 48B 456 A647 439 458 A649 43A 49B 4C4 4A1 49F 49D
   51F 51B 43B 1D2B 4C6 52F 513 521 459 A665 509 515 43C 4CE A667 43D 529 4CA 4A3 4C8 523 4A5 45A 50B 43E 4E9 43F 525 4A7
   481 440 48F 517 441 50D 4AB 442 A68D 50F 4AD A68B 45B 443 4AF 4B1 A64B 479 444*2 4FD 4FF 4B3 4BB 527 A695 461 47F A64D
   47D 47B 446 A661 A68F 4B5 A691 447 52D A693 4B7 4CC 4B9 A687 4BD 4BF 45F 448 A697 449 A64F 2E2F A67F 44A A651 44B*2 48D
   463 A653 44D*2 A655 A657 44F 519 465 467 A659 46B A65B 469 A65D 46D 46F 471 473 475 A65F 4A9 51D 4CF 2C30*30 10350*26
   10D0 2D00 10D1 2D01 10D2 2D02 10D3 2D03 10D4 2D04 10D5 2D05 10D6 2D06 10F1 2D21 10D7 2D07 10D8 2D08 10D9 2D09 10DA 2D0A
   10DB 2D0B 10DC 2D0C 10F2 2D22 10DD 2D0D 10DE 2D0E 10DF 2D0F 10E0 2D10 10E1 2D11 10E2 2D12 10F3 2D23 10E3 2D13 10E4 2D14
   10E5 2D15 10E6 2D16 10E7 2D17 10E8 2D18 10E9 2D19 10EA 2D1A 10EB 2D1B 10EC 2D1C 10ED 2D1D 10EE 2D1E 10F4 2D24 10EF 2D1F
   10F0 2D20 10F5 2D25 10F6*2 2D27 10F8*3 10FD 2D2D 10FE*2 561 560 562*14 588 576*11 559 5D0*A 5DB*2 5DE 5E0*3 5E4 5E6*5
   10900*16 800*18 81A*2 621*3 672 671 624*2 673 773*2 626 8A8*2 8AC 627 66E 628 67B 67E 680 750*6 8A0 756 8BE 8A1 8B6*2
   629*3 679*2 67C*2 67F 8B8 8BF*2 62C 683*2 686 6BF 687 8A2 8C1 8C5*2 62D*2 681*2 685 757*2 76E*2 772 77C 62F*2 688*6 8AE
   68E*3 6EE 759*2 631*2 691*9 6EF 75B 76B*2 771 8AA 8B2 8B9 633*2 69A*3 6FA 75C 76D 770 77D*2 635*2 69D 8AF 69E 6FB 637*2
   69F 8A3 639*2 6A0 8C3 6FC 75D*3 8B3 641 6A1*2 8BB 6A3*2 8A4 6A5*2 760*2 66F 642 6A7 8BC 6A8 8C4 8A5 643 6A9*4 77F 6AD*2
   8B4*2 6AF 8B0 6B0*5 762 63B*2 763*2 8C2 644 6B5*4 76A 8A6 8C7*3 645 765*2 8A7 646 6BA 8BD 6BB*3 6B9 767*3 647 6BE 6C1 6C3
   6FF 6D5 648 6C4*8 8B1 6CF 778*2 8AB 649*2 6CC*3 6D0*2 63D*3 620 775*3 8BA 6D2 77A*2 710 712*2 716 715 717*3 74D 71A*2
   71D*3 74E 720*4 725*2 74F 728*5 860*B 870*1F 840*19 780 799*2 781*3 79C 784*4 7A2*2 788 7A5 789*3 79B 78C 798 7A0*2 78D*2
   7A4 78F*2 79D*3 791*7 7B1 7A6*B 7CA*1E 7F4*2 2D30*C 2D66 2D3C*18 2D67 2D54*12 2D6F 1200*10 2D80 1210*10 1380*4 2D81
   1220*10 2D82 1230*8 2D83 AB01*6 1238*8 2D84 1240*9 124A*4 1250*7 1258 125A*4 1260*8 1384*4 2D85 1268*10 2D86 1278*8 2D87
   1280*9 128A*4 1290*8 2D88 1298*8 2D89 12A0*8 2D8A 12A8*9 12B2*4 12B8*7 12C0 12C2*4 12C8*F 12D8*8 2D8B AB11*6 12E0*18 2D8C
   AB09*6 12F8*8 2D8D 1300*8 2D8E 1308*9 1312*4 1318*8 2D93*4 1320*8 2D8F 1328*8 2D90 AB20*7 1330*8 2D91 1338*8 AB28*7
   1340*10 1388*4 1350*8 138C*4 2D92 1358*3 2DA0*7 2DA8*7 2DB0*7 2DB8*7 2DC0*7 2DC8*7 2DD0*7 2DD8*7 950 A8FD 972 904*3 973*5
   907*5 960 90C 961 90D*4 A8FE 911*7 97B 918*5 979 97C 91D*4 978 921 97E 922*7 92A*3 97F 92D*3 97A 930 932*2 935*5 93D 97D
   1CE9 1CF5*2 A8F2 A8FB 93E 93A*2 94F 956*2 93F*6 962*2 945 955 946*2 94E 948 A8FF 949*5 980 985*7 9E0 98C 9E1 98F*2 993*16
   9AA*7 9F0 9B2 9F1 9B6*4 9BD*8 9E2*2 9C7*2 9CB*3 9D7 9FC A74 A73 A09*2 A13 A05*2 A10 A14 A72 A07*2 A0F A38*2 A51 A15*14
   A2A*6 A75 A30 A32 A35 A5C A3E*5 A47*2 A4B*3 AD0 A85*7 AE0 A8C AE1 A8D A8F*3 A93*A AF9 A9D*C AAA*7 AB2 AB5*5 AB3 ABD*8
   AE2*2 AC5 AC7*3 ACB*3 B05*7 B60 B0C B61 B0F*2 B13*16 B2A*6 B5F B30 B32*2 B35 B71 B36*4 B3D*8 B62*2 B47*2 B4B*3 B56*2 BD0
   B85*6 B8E*3 B92*3 B83 B95 B99*2 B9E*2 BA3*2 BA8 BAA BAE*3 BB2 BB5 BB4 BB3 BB1 BA9 B9C BB6*4 BBE*5 BC6*3 BCA*4 BD7 C05*7
   C60 C0C C61 C0E*3 C12*9 C58 C1B*2 C59 C1D*C C2A*9 C35*5 C33*2 C5A C5D C3D*8 C62*2 C46*3 C4A*4 C55*2 C85*7 CE0 C8C CE1
   C8E*3 C92*17 CAA*9 CB5*5 CB3 CDE CBD CF1*2 C80 CBE*7 CE2*2 CC6*3 CCA*4 CD5*2 CDD D05*4 D5F D09*3 D60 D0C D61 D0E*3 D12*1F
   D32 D35*5 D33*2 D31 D3A D3D D04 D3E*7 D62*2 D46*3 D4A*3 D57 D4D D85*12 D9A*18 DB3*9 DBD DC0*7 DCF*6 DD6 DD8 DF2 DDF DF3
   DD9*6 DCA AAF2 ABC0*1B AAE0*B ABE3*8 AAEB*5 AAF5 ABDB*8 ABED AAF6 A800*7 A82C A807*4 A80C*1C A882*43 11083*17 1109B
   1109D*E 110AC*E 11150*20 11176 11170*3 111C4 111DA 11183*30 111C1*3 111DC 111B3*A 111CE 111BD*4 11200*12 11213*21 11235
   1123F*2 112B0*2F 112E0*9 112EA 11280*4 112A5*2 11284*3 11288 1128A*4 1128F*F 1129F*6 112A7*2 11350 11305*7 11360 1130C
   11361 1130F*2 11313*16 1132A*7 11332*2 11335*5 1133D 1135E*2 1133E*7 11362*2 11347*2 1134B*3 11357 1135D 11449*2 11400*35
   11447 11460*2 11448 1145F 11435*E 114C7 11480*30 114C4*2 114B0*F 114C2 11580*36 115B8*4 115BF 11600*3D 1163F 11644
   11680*A 116A8 116A7 116A9 1168A*2 116B8 1168C*1B 116AA 116AD*A 11900*7 11909 1190C*5 1193F 11911*3 11915*2 11918*E 11940
   11926 11941 11927 11942 11928*E 11937*2 1193D*2 119A0*8 119AA*27 119E1 119E3 119D1*7 119DA 119E4 119DB*3 119E0 11800*37
   11839 11700*5 11706*10 11717*3 11720*C 1171D*3 11D00*7 11D08*2 11D0B*2C 11D3A 11D3C*2 11D3F 11D44*2 11D98 11D60*6 11D67*2
   11D6A*25 11D90*2 11D93*2 11D97 1B83*8 1BAE 1B8B*E 1BBD 1B99 1BAC 1B9A 1BA1 1B9B 1BA2 1BBB 1B9C 1BA3 1BBC 1B9D 1BAD 1B9E*2
   1BAF 1BA0 1BA4*8 11005*2F 11003*2 11034*13 11071*2 11075 1107F 10A00*4 10A05*2 10A0C 10A10 10A32 10A11*3 10A15*3 10A19*2
   10A34 10A1B 10A33 10A1C*11 10A35 10A2D*5 10A3F 11C00*9 11C0A*25 11C40 11C2F*8 11C38*4 11C3F E01*3A E40*6 EDE E81*2 E84
   E86*4 EAA E8A E8C E8E EDF E8D E8F*15 EA5 EA7*3 EAB*13 EC0*5 AA80*3F AAC0 AAC2 AADB*2 F40 F90 F6B F41 F91 F42 F92 F44 F94
   F45 F95 F46 F96 F47 F97 F49 F99 F4A F9A F4B F9B F4C F9C F4E F9E F4F F9F F50 FA0 F51 FA1 F53 FA3 F54 FA4 F55 FA5 F56 FA6
   F58 FA8 F59 FA9 F5A FAA F5B FAB F5D FAD F5E FAE F5F FAF F60 FB0 F61 FB1 F62 FB2 F6C F63 FB3 F64 FB4 F65 FB5 F66 FB6 F67
   FB7 F68 FB8 F88 F8D F89 F8E F8C F8F F8A*2 F71*3 F80*2 F74*A F84 11A0B 11A32 11A0C*26 11A00*B 11A34 11A47 11A50*4 11A59*2
   11A54 11A56 11A55 11A57*2 11A5B*2 11A83 11A5D*26 11A84*2 11A99 11A9D 11AB0*10 11C72 11C92 11C73 11C93 11C74 11C94 11C75
   11C95 11C76 11C96 11C77 11C97 11C78 11C98 11C79 11C99 11C7A 11C9A 11C7B 11C9B 11C7C 11C9C 11C7D 11C9D 11C7E 11C9E 11C7F
   11C9F 11C80 11CA0 11C81 11CA1 11C82 11CA2 11C83 11CA3 11C84 11CA4 11C85 11CA5 11C86 11CA6 11C87 11CA7 11C88*2 11CA9 11C8A
   11CAA 11C8B 11CAB 11C8C 11CAC 11C8D 11CAD 11C8E 11CAE 11C8F 11CAF*6 1C00*A 1C4D*3 1C0A*11 1C24 1C1B 1C25 1C1C*8 1C36
   1C26*10 A840*8 A869*4 A848*C A867 A854*4 A868 A86D A858 A871*2 A859*2 A86E A85B*2 A86F*2 A85D A862*4 A85E*4 A866 A873
   1900*1D 1920*C 1930*9 1700*15 171F*16 1740*14 1760*D 176E*3 1772*2 1A00*1C 11EE0*17 11F02 11F04*D 11F12*22 1BC0 1BC2 1BC5
   1BC7 1BC9 1BCB 1BCE 1BD0*3 1BD4 1BD6 1BD8 1BDB 1BDD*2 1BE0*6 1BE7 1BE9*2 1BEC 1BEE 1BF0*4 A930*24 A90A*21 1000 1075 1001
   1076 1002 1077 AA60 A9E9 1003 A9E0 A9EA 1004 105A 1005 1078 AA61 1006 A9E1 AA62 AA7E 1007 AA63 A9EB 1079 AA72 1008 105B
   A9E2 AA64 A9EC 1061 AA7F 1009 107A AA65 A9E7 100A*2 AA66 100C AA67 100D AA68 A9ED 100E AA69 A9EE 100F 106E A9E3 A9EF
   1010*3 107B A9FB 1013 AA6A A9FC 1014 107C AA6B 105E 1015*2 107D*2 AA6F 108E A9E8 1017 107F A9FD 1018 A9E4 A9FE 1019 105F
   101A 103B 101B AA73 AA7A 103C 101C 1060 101D 103D 1082 1080 1050*2 1065 101E AA6C 101F 1081 AA6D 103E AA6E AA71 1020 A9FA
   105C*2 106F*2 1066 1021*6 1052*4 1027*4 102C 1083 1072 109C 102D 1071 102E 1033 102F 1073*2 1030 1056*4 1031 1084 1035
   1085 1032 109D 1034 1062 1067*2 A9E5 1086 1039*2 1063*2 1069*5 1087 108B 1088 108C*2 1089*2 108F 109A*2 AA7B*3 AA74*3
   10D00 10D1D*5 10D01*1C 10D22*2 11103*21 11147 11124*3 11144 11127*C 11145*2 11133*2 1780*23 17DC 17A3*11 17B6*10 17D2
   1950*1E 1970*5 1980*2C 19B0*1A 1A20*2D 1A53 1A6B 1A55*3 1A5C*3 1A4D*6 1A61 1A6C 1A62*2 1A65*6 1A6E*2 1A73 1A70*3 1A6D
   1A60 AA00*29 AA33*4 AA29*A AA40*E 1B05*F 1B45*2 1B14*F 1B47 1B23*5 1B48 1B28*8 1B49 1B30*3 1B4A*3 1B33 1B35*10 A984*27
   A9BE A9AB A9BF A9AD*6 A9B4 A9BC A9B6*4 A9BD A9BA*2 A9C0 1880*7 1843 1820 1887 1821 1844 185D 1822 1845 185E 1873 1888
   185F 1823 1846 1824 1847 1861 1825 1848 1826 1849 1860 1827*3 184A 1862 188A 189B 182A 184B 182B 184C 1866 182C 184D 182D
   184E 1864 189A 1865 182E 184F 182F*3 1867 189C*2 18A2 18A4*2 1832 1850 1868 1833 1851 1869 1834 1852 1871 1878 185C 188B
   1835 1853 186A 1877 1836 1855 1872 1837 1875 1838 1856 1839 186B 1876 183A 1857 1863 1874 1889 183B*2 1854 186E 183D 186F
   1858 186C 183E 1859 186D 183F*4 185A*2 1870 188C 189E 188D*2 189F 188F*2 1898 18A0 1891 18A1 1892*2 18A8 1894 18A3 1895
   1899 1896*2 18A6*2 18AA 18A9 1C5A*24 AB70*50 13F8*6 104D8*24 1401*17B 157D 166F 157E*10 1670 158E*8 1671*6 1596*11 157C
   15A7*C6 1677*9 18B0*46 1681*1A 16A0 16A2 16A6 16A8 16F4 16AF*4 16F1 16B7 16B9*2 16BE 16C1 16F5 16C3 16C5 16C7*4 16F2 16CF
   16D2 16D6 16F6 16D7 16DA 16DC 16DE*2 16F3 16AA 16F7 16AB 16F8 16A3 16E0 16E3 16B8 16E4 16E1*2 16E5*2 10CC0 10CC2*8
   10CCC*5 10CD2*A 10CDD 10CE0*3 10CE4*7 10CEC 10CEE*5 10C00 10C02*2 10C05*3 10C09 10C0B 10C0D 10C0F 10C11 10C13*2 10C16
   10C18 10C1A 10C1C 10C1E 10C20*5 10C26 10C28 10C2A 10C2C*2 10C2F*4 10C34 10C36 10C38 10C3A 10C3C*4 10C41 10C43 10C45
   10C47*2 A500*10D A6A0*50 16800*239 16AD0*1E 1E800*C5 16E60*20 1E922*22 1E94B 1100*5F A960*1D 115F*49 D7B0*17 11A8*58
   D7CB*31 3041 3043 3045 1B000 3047 3049 3095 304D 304F 3096 3053 3055 3057 3059 305B 305D 305F 3061 3063 3066 3068 306A*6
   3072 3075 3078 307B 307E*6 3085 3087 3089*6 1B150*3 1B155 3093 1B002*D 1B001 1B00F*114 1B132 3105*3 31AC 3108 312A 3109*3
   312F 310C*3 312B 31AD 310F*4 312C 31BC*2 3113*7 31B8*3 311A*2 31A6 311C*2 31A4 311E*7 31B2 3125 31B0*2 3126*4 312D 31BE*2
   A000*48D A4F8*4 A4FD A4FC A4D0*1A A4EB A4ED A4EA A4EC 11FB0 A4EE*A 16F00*4 16F45 16F04*2 16F07*7 16F48 16F0E*2 16F4A
   16F10*3 16F14*11 16F26*D 16F47 16F33 16F46 16F34*6 16F49 16F3A*5 16F40*5 16F50*4 16F4F 16F54*5 16F81 16F59*4 16F83
   16F5D*4 16F84 16F61*5 16F86 16F66*8 16F7F 16F87 16F6E*5 16F80 16F73*2 16F85 16F82 16F75*A 16F8F*11 118FF 118C0*20 11AD5*7
   11AC0*15 11ADC*2 11ADF*5 11ADE 11AE4 11AEF 11AF2 11AF1 11AE6 11AE9 11AE5 11AE8 11AF4 11AF7 11AF3 11AF6 11AEC 11AEE 11AEB
   11AED 11AF5 11AF8 11AE7 11AEA 11AF0 16B00*30 16B40*2 16B63*15 16B7D*13 1E100*2D 1E137*5 1E14E 1E2C0*2C 1E4D0*1C 1E7E0*7
   1E7E8*4 1E7ED*2 1E7F0*F 10280*1D 102A0*31 10920*1A 10300*F 1031F 1030F*10 1032D*1E 10428*58 1BC00*6B 1BC70*D 1BC80*9
   1BC90*A 10480*1E 10500*28 10530*34 10597*B 105A3*F 105B3*7 105BB*2 110D0*19 16A40*1F 16A70*4F 10000*C 1000D*1A 10028*13
   1003C*2 1003F*F 10050*E 10080*7B 10600*137 10740*16 10760*8 10780 10800*6 10808 1080A*2C 10837*2 1083C 1083F 10A60*1D
   10A80*1D 10B00*2E 10B2F*7 10860*D 1086E*9 10881 10883*3 10887*5 1088D 1088F 10891 10893 10895*7 1089D*2 108E0*13 108F4*2
   10840*16 10B40*16 10B60*13 10B80*12 10FE0*16 10AC0*8 10AC9*1C 10F00 10F02 10F04*2 10F07*8 10F11*2 10F14*2 10F18*3
   10F30*15 10F70*12 10E80*21 10EB0 10EA1*8 10EB1 10EA9 10FB0*15 10380*1E 103A0*24 103C8*8 12000*263 122D4*2 12263*71
   122D6*C4 12480*C4 12F90*61 13000*430 13441*6 109A0*10 109B1*7 109BE*2 1099E*2 14400*247"

/-- The characters with weights of their own: `@` and a code say where the list goes on, a word holds the weights of a character,
joined by plus signs, and a star with a count lets neighbours of letters be weighed like the neighbours of a character. A weight is
the code whose place in the order it takes, nothing for no place, then after points the weights of accent and form where they
differ from the usual. -/
def weighed : String :=
  "@C6 61..A+.118.4+65..A @D0 64..A+.118.4 @D8 6F..8+.2F @DF 73..4+.118.4+73..4 @E6 61..4+.118.4+65..4 @F0 64..4+.118.4 @F8
   6F+.2F @110 64..8+.39 64+.39 @126 68..8+.39 68+.39 @13F 6C..8+.118 6C+.118 6C..8+.39 6C+.39 @152 6F..A+.118.4+65..A
   6F..4+.118.4+65..4 @17F 73..4+.119.4 @18D 7A..4+77..4 @1BE 74..4+73..4 @238 64..4+62..4 71..4+70..4 @2A3 64..4+7A..4
   64..4+292..4 64..4+291..4 74..4+73..4 74..4+283..4 74..4+255..4 66..4+14B..4 6C..4+73..4 6C..4+7A..4 @300 .25 .24 .27 .2D
   .32 .3A .26 .2E .2B .3B .29 .2C .28 .33*2 .3C .3D .3E .33 .22 .23 .33 .34*4 .33 .3F .34*5 .40 .41 .42 .43 .44 .45 .30 .31
   .34*4 .46 .47 .34 .48 .49 .21 .34 .4A .39 .35*2 .2F .4B .34*3 .33*3 @342 .2A @345 .4C .33 .34*3 .33*3 .34*2 @350 .33*3
   .34*4 .33 .4D .34*2 .33 .34 .33*2 .34 .4E .4F .34 61..4 65..4 69..4 6F..4 75..4 63..4*2 68..4 6D..4 72..4 74..4 76..4
   78..4 @37A 3B9..4 @3C2 3C3..19 @3CF 3BA..A+3B1..4+3B9..4 @3D7 3BA..4+3B1..4+3B9..4 @483 .50 .33 .23 .22 .33 @490
   433..A+.119.4 433..4+.119.4 @5B0 .52 .53 .54 .55 .56 .57 .58 .59 .5A .5B*2 .5C .5F @5BF .60 @5C1 .5E .5D @5C7 .5A @5DA
   5DB..19 @5DD 5DE..19 @5DF 5E0..19 @5E3 5E4..19 @5E5 5E6..19 @5EF 5D9..4+5D4..4+5D5..4+5D4..4 5D5..4+5D5..4 5D5..4+5D9..4
   5D9..4+5D9..4 @64B .6D .70 .73 .76 .7A .7D .80 .81 .82 .83 .84 .86 .87 .88 .8A .8B .8C .8D .8E .8F .85 @670 .98 @674
   621..4 @6E5 648..4 64A..4 @6FD 621..4+.119.4 645..4+.119.4 @711 .99 @714 713..4+.119.4 @71C 71B..4+.119.4 @724 723..19
   @727 726..4+.119.4 @72D 712..4+.11A.4 713..4+.11A.4 715..4+.11A.4 .9A .9B .9C .9D .9E .9F .A0 .A1 .A2 .A3 .A4 .A5 .A6 .A7
   .A8 .A9 @741 .33 .34 @745 .33 .34 @7E8 7D6..4+.118.4 7D7..4+.118.4 7D9..4+.118.4 .AA .AB .AC .AD .AE .AF .B0 .B1 .B2 @7FD
   .34 @818 .6A .6B @81C .62*2 .63*3 .64*3 .65*2 .66*2 .67*3 .68 .69 .6C @859 .34*3 @8AD 627..4 @8E3 .90 .77 .7B .7E .6F .72
   .75 @8F0 .6E .71 .74 @8F4 .78 .79 .7F .91 .92 .96 .97 .94 .95 .93 .7C .89 .C3*2 .C4 .C5 @93C .C2 @953 .25 .24 @981 .C3
   .C4 .C5 @9BC .C2 @9CE 9A4..4+9CD..4 @9FE .C6 @A01 .C3 .C4 .C5 @A3C .C2 @A70 .C7 .C8 @A81 .C3 .C4 .C5 @ABC .C2 @AFA .81
   .80 .82 .C2*3 @B01 .C3 .C4 .C5 @B3C .C2 @B55 .33 @B82 .C4 @C00 .C3*2 .C4 .C5 .C4 @C81 .C3 .C4 .C5 @CBC .C2 @D00 .C4 .C3
   .C4 .C5 @D3B D4D..4 D4D..4 @D4E D30..4+D4D..4 @D54 D2E..4+D4D..4 D2F..4+D4D..4 D34..4+D4D..4 @D7A D23..4+D4D..4
   D28..4+D4D..4 D30..4+D4D..4 D32..4+D4D..4 D33..4+D4D..4 D15..4+D4D..4 @D81 .C3 .C4 .C5 @E47 .D4 .D5 .D6 .D7 .D8 .D9 .DA
   .D3 @EC8 .DB .DC .DD .DE .DF .E0 @F00 F68..4+F7C..4+.C4.4 @F2A 31..4*9 30..4 @F39 .E3 @F6A F62..4+.119.4 @F7E .C4 .C5
   @FBA FAD..4+.119.4 FB1..4+.119.4 FB2..4+.119.4 @102B 102C..4 @1036 .C4 .E7 .C5 @103F 101E..4+1039..4+101E..4 @135D .B5
   .B4 .B3 @1680 20..4 @16A1 16A0..4+.118.4 @16A4 16A2..4+.118.4 16A2..4+.119.4 @16A7 16A6..4+.118.4 @16A9 16A8..4+.118.4
   @16AC 16A8..4+.119.4 16A8..4+.11A.4 16A8..4+.11B.4 @16B3 16B2..4+.118.4 16B2..4+.119.4 16B2..4+.11A.4 16B2..4+.11B.4
   @16BB 16BA..4+.118.4 16BA..4+.119.4 16BA..4+.11A.4 @16BF 16BE..4+.118.4 16BE..4+.119.4 @16C2 16C1..4+.118.4 @16C4
   16C3..4+.118.4 @16C6 16C5..4+.118.4 @16CB 16CA..4+.118.4 16CA..4+.11A.4 16CA..4+.11B.4 16CA..4+.11C.4 @16D0
   16CF..4+.118.4 16CF..4+.119.4 @16D3 16D2..4+.118.4 16D2..4+.119.4 16C8..4+.118.4 @16D8 16D7..4+.118.4 16D7..4+.119.4
   @16DB 16DA..4+.118.4 @16DD 16DC..4+.118.4 @16E7 16E6..4+.118.4 16E6..4+.119.4 16B9..4+.118.4 16CA..4+.119.4 @16EE
   16C5..4+16DA..4 16D7..4+.118.4+16D7..4+.118.4 16A6..4+16A6..4 @17C6 .C4 .C5 .E8 .E9 .EA .33*7 @17DD .33 @191D
   1908..4+1929..4 190B..4+192A..4 @1939 .F3 .F4 .F5 @19DE 199C..4+19B6..4 199C..4+19B6..4+19C1..4 @1A54
   1A46..4+1A60..4+1A46..4 @1A58 1A26..4 1A26..4 1A3B..4 1A3B..4 @1A64 1A63..4 @1A74 .C4 .EB .EC .ED .EE .EF .F0 .F1 .F2
   @1AB0 .33*5 .34*6 .33*2 .34 .36 77..4 28D..4 @1B00 .C3*2 .C4 .C9 .C5 @1B34 .C2 @1B80 .C4 .CB .C5 @1BBA 1B83..4 @1BBE
   1B8A..19 1B99..19 @1BC1 1BC0..4 @1BC3 1BC2..4 1BC2..4 @1BC6 1BC5..4 @1BC8 1BC7..4 @1BCA 1BC9..4 @1BCC 1BCB..4 1BCB..4
   @1BCF 1BCE..4 @1BD3 1BD2..4 @1BD5 1BD4..4 @1BD7 1BD6..4 @1BD9 1BD8..4 1BD8..4 @1BDC 1BDB..4 @1BDF 1BDE..4 @1BE6 .C2 @1BE8
   1BE7..4 @1BEB 1BEA..4 @1BED 1BEC..4 @1BEF 1BEE..4 @1C37 .C2 @1C80 432..4 434..4 43E..4 441..4*2 442..4 44A..4 463..4
   A64B..4 @1CEA 1CE9..4 1CE9..4 1CE9..4 .C4 1CE9..4 1CE9..4 1CE9..4 1CE9..4 .C5*2 @1CFA 1CE9..4 @1D4C 1D08..14 @1D4E
   1D09..14 @1D79 67..4+.119.4 74..4+.118.4+68..4 @1DC0 .33*2 .34 .33*7 72..4 .33*4 .34*2 .33 A76F..4 61..4+.118.4
   61..4+.118.4+65..4 61..4+6F..4 61..4+76..4 63..4+.30.4 64..4+.119.4 64..4+.118.4 67..4 262..4 6B..4*2 29F..4 1D0D..4
   6E..4 274..4 280..4 A75B..4 73..4 73..4+.119.4 7A..4 251..4 62..4 A7B5..4 259..4 66..4 AB38..4 6F..4+.34.4 70..4 283..4
   75..4+.34.4 77..4 61..4+.2B.4 6F..4+.2B.4 75..4+.2B.4 .33*4 .34 @1DFB .33 .34*2 .33 .34 @1E9E 73..A+.118.4+73..A @1EFA
   6C..A+6C..A 6C..4+6C..4 @20D0 .109 .10A .10B*2 .10C .10D .10E .10F .35*3 .110 .111 .36*4 .112 .36*3 .35 .113 .114 .115
   .116 .35*2 .34*4 .33 @210F 68+.39 @2120 73..14+6D..14 @2122 74..14+6D..14 @214D 61..A+2F..4+73..A @24EB 31..6+31..6
   31..6+32..6 31..6+33..6 31..6+34..6 31..6+35..6 31..6+36..6 31..6+37..6 31..6+38..6 31..6+39..6 32..6+30..6 31..6*9
   31..6+30..6 30..6 @2776 31..6*9 31..6+30..6 31..6*9 31..6+30..6 31..6*9 31..6+30..6 @2CE4 2C95..4+2C81..4+2C93..4 @2CEF
   .33 .23 .22 @2DE0 431..4*4 436..4*2 43A..4*9 445..4*5 473..4 441..4+442..4 430..4 435..4 A649..4 A64B..4 463..4 44E..4
   A657..4 467..4 46B..4 46D..4 @2E80 4E36..4+.118.4 5382..4+.118.4 4E5B..4 4E5A..4 4E59..4+.118.4 4EBB..4 5182..4+.118.4
   51E0..4+.118.4 5200..4+.118.4 5202..4 535C..4+.118.4 5369..4+.118.4 5C0F..4+.118.4 5C0F..4+.119.4 5C22..4+.118.4 5C23..4
   5C22..4 5C23..4+.118.4 5DF3..4 5E7A..4 5F51..4 5F50..4+.118.4 5FC4..4 5FC3..4+.118.4 624C..4 6535..4 @2E9B 65E1..4
   65E5..4+.118.4 6708..4+.118.4 6B7A..4+.118.4 @2EA0 6C11..4 6C35..4 6C3A..4 706C..4 722B..4 722B..4+.118.4 4E2C..4
   725B..4+.118.4 72AD..4 738B..4+.118.4 758B..4+.118.4 76EE..4+.118.4 793A..4+.118.4 793B..4 7AF9..4+.118.4 7CF9..4 7E9F..4
   7F53..4 7F52..4 7F53..4+.118.4 7F53..4+.119.4 7F52..4+.118.4 7F8A..4+.118.4 7F8A..4+.119.4 7F8B..4 8002..4 8080..4
   807F..4+.118.4 8089..4+.118.4 81FC..4+.118.4 8279..4 8279..4+.118.4 8279..4+.119.4 864E..4 8864..4 8980..4 897F..4
   89C1..4 89D2..4 89D2..4+.118.4 8BA0..4 8D1D..4 8DB3..4+.118.4 8F66..4 8FB6..4 8FB6..4+.118.4 8FB6..4+.119.4
   9091..4+.118.4 9485..4 9577..4 9578..4 957F..4 95E8..4 961C..4+.118.4 961D..4 96E8..4+.118.4 9752..4 97E6..4 9875..4
   98CE..4 98DE..4 98DF..4 98E0..4+.118.4 98E0..4 9963..4 9996..4+.118.4 9A6C..4 9AA8..4+.118.4 9B3C..4+.118.4 9C7C..4
   9E1F..4 9E75..4+.118.4 9EA6..4 9EC4..4 9EFE..4 9F4A..4+.118.4 9F50..4 9F52..4+.118.4 9F7F..4 9F8D..4+.118.4 9F99..4
   9F9C..4+.118.4 9F9C..4+.119.4 @3006 3057..4+3081..4 @302A .101 .102 .103 .104 .105 .106 @3032 3031+.37 @3034 3033+.37
   @303C 307E..4+3059..4 @3041 3041..D 3041..E 3043..D 3043..E 3045..D 3045..E 3047..D 3047..E 3049..D 3049..E 3095..E @304D
   304D..E @304F 304F..E @3051 3096..E @3053 3053..E @3055 3055..E @3057 3057..E @3059 3059..E @305B 305B..E @305D 305D..E
   @305F 305F..E @3061 3061..E @3063 3063..D 3063..E @3066 3066..E @3068 3068..E @306A 306A..E*6 @3072 3072..E @3075 3075..E
   @3078 3078..E @307B 307B..E @307E 307E..E*5 3083..D 3083..E 3085..D 3085..E 3087..D 3087..E 3089..E*5 308E..D 308E..E
   1B150..E*3 3093..E @3095 3095..D*2 @3099 .37 .38 @30A1 3041..F 3041..11 3043..F 3043..11 3045..F 3045..11 3047..F
   3047..11 3049..F 3049..11 3095..11 @30AD 304D..11 @30AF 304F..11 @30B1 3096..11 @30B3 3053..11 @30B5 3055..11 @30B7
   3057..11 @30B9 3059..11 @30BB 305B..11 @30BD 305D..11 @30BF 305F..11 @30C1 3061..11 @30C3 3063..F 3063..11 @30C6 3066..11
   @30C8 3068..11 @30CA 306A..11*6 @30D2 3072..11 @30D5 3075..11 @30D8 3078..11 @30DB 307B..11 @30DE 307E..11*5 3083..F
   3083..11 3085..F 3085..11 3087..F 3087..11 3089..11*5 308E..F 308E..11 1B150..11*3 3093..11 @30F5 3095..F*2 @312E 311C..4
   @31A0 3105..4+.119.4 3117..4+.119.4 3110..4+.119.4 310D..4+.119.4 @31A5 31A4..4+.119.4 @31A7 311B..4+.119.4
   3128..4+.11A.4 311A..4+.119.4 3127..4+.119.4 3128..4+.119.4 @31AE 311E..4+.119.4 3120..4+.119.4 @31B3 3127..16+.119.16
   3106..19 310A..19 310E..19*2 @31BB 310D..19 @31F0 304F..F 3057..F 3059..F 3068..F 306C..F 306F..F 3072..F 3075..F 3078..F
   307B..F 3080..F 3089..F*5 @3248 31..6+30..6 32..6+30..6 33..6+30..6 34..6+30..6 35..6+30..6 36..6+30..6 37..6+30..6
   38..6+30..6 @A610 A558..4 A56A..4 A587..4 A50C..4+A60B..4 A51E..4+A60B..4 A533..4+A60B..4 A547..4+A60C..4 A552..4+A60B..4
   A558..4+A60C..4 A55A..4+A60C..4 A560..4+A60B..4 A585..4+A60B..4 A5B4..4+A60B..4 A5CB..4+A60B..4 A5D1..4+A60C..4
   A5D8..4+A60B..4 @A62A A56E..4 A5D1..4 @A668 43E..A 43E..4 43E..A 43E..4 43E..A 43E..4 43E..4 .51 @A674 454..4 438..4
   456..4+.2B.4 443..4 44A..4*3 461..4 .33*2 @A698 43E..A 43E..4 43E..A 43E..4 @A69E 444..4 465..4 @A6F0 .B6 .B7 @A728
   74..A+7A..4 74..4+7A..4 @A732 61..A+61..A 61..4+61..4 61..A+6F..A 61..4+6F..4 61..A+75..A 61..4+75..4 61..A+76..A
   61..4+76..4 61..A+.118.4+76..A 61..4+.118.4+76..4 61..A+79..A 61..4+79..4 @A74E 6F..A+6F..A 6F..4+6F..4 @A760 76..A+79..A
   76..4+79..4 @A779 64..A+.119.4 64..4+.119.4 66..A+.119.4 66..4+.119.4 67..A+.119.4 @A782 72..A+.119.4 72..4+.119.4
   73..A+.119.4 73..4+.119.4 74..A+.119.4 74..4+.119.4 @A79A 61..A+.2B.4 61..4+.2B.4 6F..A+.2B.4 6F..4+.2B.4 75..A+.2B.4
   75..4+.2B.4 67..A+.35.4 67..4+.35.4 6B..A+.35.4 6B..4+.35.4 6E..A+.35.4 6E..4+.35.4 72..A+.35.4 72..4+.35.4 73..A+.35.4
   73..4+.35.4 @A7F8 68..14+.39.14 @A80B .C4 @A880 .C4 .C5 @A8C5 .C3 @A8F3 A8F2..4 A8F2..4 A8F2..4 A8F2..4 A8F2..4 @A92B .E4
   .E5 .E6 @A980 .C3 .C4 .CA .C5 @A9AC A9AB..4 @A9B3 .C2 @A9B5 A9B4..4 @AABF .E1 @AAC1 .E2 @AB66 64..4+290..4 74..4+282..4
   @ABEC .CC @FB05 73..4+.119.4+74..4 @FB1E .61 @FC5E .70.1A+.80.1A .73.1A+.80.1A .76.1A+.80.1A .7A.1A+.80.1A .7D.1A+.80.1A
   .80.1A+.98.1A @FE20 .4F @FE22 .4E @FE27 .34 @FE29 .4E @FE2E .50 @FE49 203E..4 203E..4 203E..4 203E..4 @FE70 .6D.1A @FE72
   .70.1A @FE74 .73.1A @FE76 .76.1A @FE78 .7A.1A @FE7A .7D.1A @FE7C .80.1A @FE7E .81.1A @FFE3 AF..3 @FFFD FFFD @101FD .117
   @10376 10350..4 10353..4 10357..4 1035D..4 10361..4 @1086D 1086E..19 @10880 10881..19 @10882 10883..19 @10886 10887..19
   @1088C 1088D..19 @1088E 1088F..19 @10890 10891..19 @10892 10893..19 @10894 10895..19 @1089C 1089D..19 @10980
   109A0..4+.118.4 109A1..4+.118.4 109A2..4+.118.4 109A3..4+.118.4 109A4..4+.118.4 109A5..4+.118.4 109A6..4+.118.4
   109A6..4+.119.4 109A7..4+.118.4 109A8..4+.118.4 109A9..4+.118.4 109A9..4+.119.4 109AA..4+.118.4 109AA..4+.119.4
   109AB..4+.118.4 109AB..4+.119.4 109AC..4+.118.4 109AD..4+.118.4 109AE..4+.118.4 109AF..4+.119.4 109AF..4+.11A.4
   109B1..4+.118.4 109B2..4+.118.4 109B3..4+.118.4 109B4..4+.118.4 109B4..4+.119.4 109B5..4+.118.4 109B5..4+.119.4
   109B6..4+.118.4 109B7..4+.118.4 @109B0 109AF..4+.118.4 @10A0D .34 .C4 .C5 @10A38 .CD .CE .CF @10AC8 10AC7..4+.119.4
   @10AE5 .33 .34 @10B2E 10B2D..4+.118.4 @10C01 10C00..4+.118.4 @10C04 10C03..4+.118.4 @10C08 10C07..4+.118.4 @10C0A
   10C09..4+.118.4 @10C0C 10C0B..4+.118.4 @10C0E 10C0D..4+.118.4 @10C10 10C0F..4+.118.4 @10C12 10C11..4+.118.4 @10C15
   10C14..4+.118.4 @10C17 10C16..4+.118.4 @10C19 10C18..4+.118.4 @10C1B 10C1A..4+.118.4 @10C1D 10C1C..4+.118.4 @10C1F
   10C1E..4+.118.4 @10C25 10C24..4+.118.4 @10C27 10C26..4+.118.4 @10C29 10C28..4+.118.4 @10C2B 10C2A..4+.118.4 @10C2E
   10C2D..4+.118.4 @10C33 10C32..4+.118.4 @10C35 10C34..4+.118.4 @10C37 10C36..4+.118.4 @10C39 10C38..4+.118.4 @10C3B
   10C3A..4+.118.4 @10C40 10C3F..4+.118.4 @10C42 10C41..4+.118.4 @10C44 10C43..4+.118.4 @10C46 10C45..4+.118.4 @10C81
   10CC0..A+.118.4 @10C8A 10CC9..A+.118.4 10CC9..A+.119.4 @10C91 10CD0..A+.118.4 @10C9C 10CDB..A+.118.4 @10C9E
   10CDD..A+.118.4 10CDD..A+.119.4 @10CA3 10CE2..A+.118.4 @10CAB 10CEA..A+.118.4 @10CAD 10CEC..A+.118.4 @10CC1
   10CC0..4+.118.4 @10CCA 10CC9..4+.118.4 10CC9..4+.119.4 @10CD1 10CD0..4+.118.4 @10CDC 10CDB..4+.118.4 @10CDE
   10CDD..4+.118.4 10CDD..4+.119.4 @10CE3 10CE2..4+.118.4 @10CEB 10CEA..4+.118.4 @10CED 10CEC..4+.118.4 @10D24 .33*4 @10EAB
   .83 .82 @10F01 10F00..19 @10F03 10F02..19 @10F06 10F05..19 @10F0F 10F0E..19 10F0E..4+.119.4 @10F13 10F12..4+.119.4 @10F16
   10F15..19 10F15..4+.119.4 @10F1B 10F1A..19 10F1A..4+.119.4 @10F27 10F12..4+10F18..4 @10F45 10F41..4+.119.4 .34*2 .33*3
   .34 .33 .34*4 @10FF6 10FE6..4+10FE9..4 @11000 .C3 .C4 .C5 @11080 .C3 .C4 .C5 @110BA .C2 @11100 .C3 .C4 .C5 @11173 .C2
   @11180 .C3 .C4 .C5 @111C9 .C6 .C2 .D0 .D1 @111CF .C3 @11234 .C4 @11236 .C2 .80 @1123E .81 @112DF .C4 @112E9 .C2 @11300
   .C4 .C3 .C4 .C5 @1133B .C2*2 @11443 .C3 .C4 .C5 .C2 @1145E .C6 @114BF .C3 .C4 .C5 @114C3 .C2 @115BC .C3 .C4 .C5 @115C0
   .C2 @115D8 11582..4+.118.4 11582..4+.119.4 11583..4+.118.4 11584..4+.118.4 115B2..4+.118.4 115B3..4+.118.4 @1163D .C4 .C5
   @11640 .C3 @116AB .C4 .C5 @116B7 .C2 @11705 11704..4+.118.4 @11716 11715..4+.118.4 @1171A 11708..4+.118.4 @11837 .C4 .C5
   @1183A .C2 @1193B .C4 .C3 @11943 .C2 @119DE .C4 .C5 @11A33 .C2 @11A35 .C3*3 .C4 .C5 11A2B..17 11A2A..19*4 @11A86
   11A7C..17*2 11A7F..17 11A81..17 11A5C..19*2 11A60..19 11A6B..19 11A6F..19*2 11A74..19 11A7C..19*2 11A7F..19 11A81..19
   11A7A..19 .C4 .C5 .D2 @11C3C .C3 .C4 .C5 @11CB5 .C4 .C3 @11D40 .C4 .C5 .C2 .C3 @11D46 11D26..17 11D26..19 @11D95 .C4 .C5
   @16AF0 .B8 .B9 .BA .BB .BC @16B30 .F6 .F7 .F8 .F9 .FA .FB .FC @16E94 31..4+.118.4 32..4+.118.4 33+.118 @16F06 16F04..4
   @16F13 16F10..4 @16F25 16F23..4 @16F3F 16F3D..4 @16FF0 .107 .108 @1B000 1B000..11 @1B150 1B150..D*3 @1B164 1B150..F*3
   3093..F @1BC9D .33 .35 @1E000 2C30..4*7 @1E008 2C38..4*11 @1E01B 2C4B..4*7 @1E023 2C53..4*2 @1E026 2C56..4*5 @1E130 .FA
   .F6 .F8 .F9 .FB .FC .F7 @1E2EC .FD .FE .FF .100 @1E944 .BD*3 .BF .C0 .C1 .BE @1ECB1 31..4+.118.4 32..4+.118.4 @1ED2F
   32..4+.118.4 33..4+.118.4 34..4+.118.4 35..4+.118.4 36..4+.118.4 37..4+.118.4 38..4+.118.4 39..4+.118.4 @1F10B 30..6
   30..6 @1F150 61..C*1A 6D..14+63..14 6D..14+64..14 6D..14+72..14 @1F170 61..1D*1A 70..1D 69..1D+63..1D 70..1D+61..1D
   73..1D+61..1D 61..1D+62..1D 77..1D+63..1D @1F191 63..1D+6C..1D 63..1D+6F..1D+6F..1D+6C..1D 66..1D+72..1D+65..1D+65..1D
   69..1D+64..1D 6E..1D+65..1D+77..1D 6E..1D+67..1D 6F..1D+6B..1D 73..1D+6F..1D+73..1D 75..1D+70..1D+21..1C 76..1D+73..1D
   33..1C+64..1D 32..1C+6E..1C+64..1C+20..1C+73..1D+63..1C+72..1C 32..1C+6B..1D 34..1C+6B..1D 38..1C+6B..1D
   35..1C+2E..1C+31..1C 37..1C+2E..1C+31..1C 32..1C+32..1C+2E..1C+32..1C 36..1C+30..1C+70..1D 31..1C+32..1C+30..1C+70..1D
   64..1C 68..1D+63..1C 68..1D+64..1C+72..1D 68..1D+69..1C+20..1C+72..1D+65..1C+73..1C
   6C..1D+6F..1C+73..1C+73..1C+6C..1C+65..1C+73..1C+73..1C 73..1D+68..1D+76..1D 75..1D+68..1D+64..1D 76..1D+6F..1D+64..1D"

/-- Groups of characters that are weighed as one. -/
def joined : String :=
  "4C+B7=6C..8+.118 4C+387=6C..8+.118 6C+B7=6C+.118 6C+387=6C+.118 418+306=439..8 438+306=439 627+653=622 627+654=623
   627+655=625 648+654=624 64A+654=626 9C7+9BE=9CB 9C7+9D7=9CC B47+B3E=B4B B47+B56=B48 B47+B57=B4C B92+BD7=B94 BC6+BBE=BCA
   BC6+BD7=BCC BC7+BBE=BCB C46+C56=C48 CBF+CD5=CC0 CC6+CC2=CCA CC6+CC2+CD5=CCB CC6+CD5=CC7 CC6+CD6=CC8 CCA+CD5=CCB
   D46+D3E=D4A D46+D57=D4C D47+D3E=D4B DD9+DCA=DDA DD9+DCF=DDC DD9+DCF+DCA=DDD DD9+DDF=DDE DDC+DCA=DDD E4D+E32=E33
   ECD+EB2=EB3 F71+F72=F73 F71+F74=F75 F71+F80=F81 FB2+F71+F80=F77 FB2+F80=F76 FB2+F81=F77 FB3+F71+F80=F79 FB3+F80=F78
   FB3+F81=F79 1025+102E=1026 1B05+1B35=1B06 1B07+1B35=1B08 1B09+1B35=1B0A 1B0B+1B35=1B0C 1B0D+1B35=1B0E 1B11+1B35=1B12
   1B3A+1B35=1B3B 1B3C+1B35=1B3D 1B3E+1B35=1B40 1B3F+1B35=1B41 1B42+1B35=1B43 11131+11127=1112E 11132+11127=1112F
   11347+1133E=1134B 11347+11357=1134C 114B9+114B0=114BC 114B9+114BA=114BB 114B9+114BD=114BE 115B8+115AF=115BA
   115B9+115AF=115BB 11935+11930=11938"

/-- The characters that do not count. -/
def ignored : String :=
  "0-8 E-1F 7F-84 86-9F AD 34F 488-489 591-5AF 5BD 5C4-5C5 600-605 610-61A 61C 640 6D6-6DD 6DF-6E4 6E7-6E8 6EA-6ED 70F 740
   743-744 747-74A 7FA 8D3-8E2 8EA-8EF 8F3 951-952 F18-F19 F35 F37 F3E-F3F F82-F83 F86-F87 FC6 17B4-17B5 17D3 180A-180E 1A7F
   1B6B-1B73 1CD0-1CE8 1CF4 1CF7-1CF9 200B-200F 202A-202E 2060-2064 2066-206F 2D7F A670-A672 A8E0-A8F1 FE00-FE0F FE21
   FE23-FE26 FE28 FE2A-FE2D FE2F FE73 FEFF FFF9-FFFB 102E0 110BD 110CD 11366-1136C 11370-11374 13430-13438 16FE4 1BCA0-1BCA3
   1D165-1D169 1D16D-1D182 1D185-1D18B 1D1AA-1D1AD 1D242-1D244 1DA00-1DA36 1DA3B-1DA6C 1DA75 1DA84 1DA9B-1DA9F 1DAA1-1DAAF
   1E8D0-1E8D6 E0001 E0020-E007F E0100-E01EF"

/-- The vowels that stand before the consonant they are read after, with the consonants they are exchanged with. -/
def exchanged : List (String × String) :=
  [("E40-E44", "E01-E2E"), ("EC0-EC4", "E81-E82 E84 E86-E8A E8C-EA3 EA5 EA7-EAE EDC-EDF"),
   ("19B5-19B7 19BA", "1980-19AB"), ("AAB5-AAB6 AAB9 AABB-AABC", "AA80-AAAF")]

end QualityGate.Collation.Table
